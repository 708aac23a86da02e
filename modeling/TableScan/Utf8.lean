/-!
The order of text by its UTF-8 bytes. Distinct texts have distinct bytes, so this is a total order
on texts.
-/

namespace TableScan.Utf8

def bytes (s : String) : List UInt8 := s.toUTF8.data.toList

def compare (s t : String) : Ordering := Ord.compare (bytes s) (bytes t)

theorem bytes_injective {s t : String} (h : bytes s = bytes t) : s = t :=
  String.toByteArray_inj.mp (ByteArray.ext (Array.toList_inj.mp h))

theorem compare_eq_iff {s t : String} : compare s t = .eq ↔ s = t := by
  constructor
  · intro h
    exact bytes_injective (Std.LawfulEqOrd.eq_of_compare h)
  · rintro rfl
    exact Std.ReflOrd.compare_self

end TableScan.Utf8

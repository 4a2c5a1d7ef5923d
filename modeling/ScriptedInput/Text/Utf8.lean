/-! Texts as bytes and back. -/
namespace ScriptedInput.Text

/-- The text that the bytes encode in UTF-8. There is none if a sequence is malformed, overlong,
cut short, a surrogate, or above the last code point. -/
def decode? (bytes : List UInt8) : Option String := String.fromUTF8? bytes.toByteArray

def codePointLength? (bytes : List UInt8) : Option Nat :=
  [1, 2, 3, 4].find? (fun n => n ≤ bytes.length && (decode? (bytes.take n)).isSome)

private theorem length_drop_lt_of_codePointLength? {bytes : List UInt8} {n : Nat}
    (h : codePointLength? bytes = some n) : (bytes.drop n).length < bytes.length := by
  have hp := List.find?_some h
  have hm := List.mem_of_find?_eq_some h
  simp only [Bool.and_eq_true, decide_eq_true_eq] at hp
  have : 1 ≤ n := by
    simp at hm
    omega
  simp only [List.length_drop]
  omega

def decodableLength (bytes : List UInt8) : Nat :=
  match _ : codePointLength? bytes with
  | none => 0
  | some n => n + decodableLength (bytes.drop n)
  termination_by bytes.length
  decreasing_by exact length_drop_lt_of_codePointLength? ‹_›

def encode (s : String) : List UInt8 := s.toList.flatMap String.utf8EncodeChar

end ScriptedInput.Text

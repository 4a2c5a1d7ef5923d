import ScriptedInput.IoError

/-! What a script is read from: the buffers that reading hands out, one after the other, and how
reading ends. -/
namespace ScriptedInput

/-- The bytes of a script in the buffers they arrive in, and the failure met after the last of them.
Without a failure the script ends there. -/
structure Source where
  buffers : List (List UInt8)
  failure : Option IoError := none
  deriving DecidableEq, Repr

namespace Source

def bytes (s : Source) : List UInt8 := s.buffers.flatten

def buffered (size : Nat) (bytes : List UInt8) (failure : Option IoError := none) : Source :=
  ⟨cut bytes.length bytes, failure⟩
where
  cut : Nat → List UInt8 → List (List UInt8)
    | 0, _ => []
    | _, [] => []
    | n + 1, bs => bs.take (max size 1) :: cut n (bs.drop (max size 1))

def failingAfter (n : Nat) (size : Nat) (bytes : List UInt8) (failure : IoError) : Source :=
  buffered size (bytes.take n) (some failure)

end Source
end ScriptedInput

/-! # What is printed

Texts go to the output or to the errors. Sequences that steer a terminal are left
out of what is printed.
-/

namespace Wordsheet.Console

inductive Channel where
  | output
  | errors
  deriving DecidableEq, Repr

structure Printed where
  channel : Channel
  text : String
  deriving DecidableEq, Repr

/-- Whether a character may stand between the start of a steering sequence and its letter. -/
def isSteering (c : Char) : Bool :=
  c == ';' || c == '?' || ('0' ≤ c && c ≤ '9')

def afterSteering? (cs : List Char) : Option (List Char) :=
  match cs.dropWhile isSteering with
  | [] => none
  | c :: rest => if c.isAlpha then some rest else none

theorem afterSteering?_length {cs rest : List Char} (h : afterSteering? cs = some rest) :
    rest.length < cs.length := by
  have hd := (List.dropWhile_sublist (p := isSteering) (l := cs)).length_le
  unfold afterSteering? at h
  split at h
  · simp at h
  · next he =>
      rw [he, List.length_cons] at hd
      split at h
      · simp only [Option.some.injEq] at h
        subst h
        omega
      · simp at h

/-- A text without the sequences that steer a terminal. -/
def withoutSteering (cs : List Char) : List Char :=
  match cs with
  | [] => []
  | '\x1b' :: '[' :: rest =>
      match _sequence : afterSteering? rest with
      | some after => withoutSteering after
      | none => '\x1b' :: withoutSteering ('[' :: rest)
  | c :: rest => c :: withoutSteering rest
termination_by cs.length
decreasing_by
  · have := afterSteering?_length _sequence
    simp only [List.length_cons]
    omega
  · simp
  · simp

def printLine (channel : Channel) (text : String) : Printed :=
  ⟨channel, String.ofList (withoutSteering text.toList) ++ "\n"⟩

end Wordsheet.Console

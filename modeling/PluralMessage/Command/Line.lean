/-!
Lines that commands write. Terminal styles are taken out of them.
-/
namespace PluralMessage.Command

/-- The length of a terminal style after its escape character, if one stands there. -/
def styleLength? : List Char → Option Nat
  | '[' :: s =>
      let parameters := s.takeWhile fun c => c == ';' || c == '?' || c.isDigit
      match s.drop parameters.length with
      | c :: _ => if c.isAlpha then some (parameters.length + 2) else none
      | [] => none
  | _ => none

/-- A text without its terminal styles, passing over the first `skip` characters. -/
def plainFrom : (skip : Nat) → List Char → List Char
  | _, [] => []
  | skip + 1, _ :: s => plainFrom skip s
  | 0, c :: s =>
      if c = '\x1b' then
        match styleLength? s with
        | some n => plainFrom n s
        | none => c :: plainFrom 0 s
      else c :: plainFrom 0 s

def line (s : List Char) : List Char :=
  plainFrom 0 s ++ ['\n']

end PluralMessage.Command

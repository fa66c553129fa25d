import NCBlock.Error
import NCBlock.Token.Span

/-!
Tokens of a text. A token is a letter with a literal, and a blank or the end must follow it. The
text is scanned from the left; characters at which no token starts are left over, and a text is
accepted only if nothing but blanks is left over.
-/

namespace NCBlock

def isTokenLetter (c : Char) : Bool := 'A' ≤ c && c ≤ 'Z' || c = '*'

/-- The token at the start of a text, and what follows it and the blank that ends it. -/
def token? : Text → Option (Text × Text)
  | [] => none
  | c :: rest =>
    if isTokenLetter c then
      match spanLiteral rest with
      | (literal, []) => some (c :: literal, [])
      | (literal, d :: rest) => if isBlank d then some (c :: literal, rest) else none
    else none

theorem token?_length_lt {t token rest : Text} (h : token? t = some (token, rest)) :
    rest.length < t.length := by
  cases t with
  | nil => simp [token?] at h
  | cons c t =>
    have bound := congrArg List.length (spanLiteral_append t)
    rw [List.length_append] at bound
    simp only [token?] at h
    split at h
    · split at h
      next => simp [← (Prod.mk.inj (Option.some.inj h)).2]
      next literal d after heq =>
        simp only [Option.ite_none_right_eq_some, Option.some.injEq, Prod.mk.injEq] at h
        rw [heq, List.length_cons] at bound
        rw [← h.2.2, List.length_cons]
        omega
    · simp at h

/-- What a scan finds: the tokens, and the characters outside them. -/
structure Scan where
  tokens : List Text
  residue : Text
deriving DecidableEq

def Scan.ofText : Text → Scan
  | [] => ⟨[], []⟩
  | c :: rest =>
    match h : token? (c :: rest) with
    | some (token, after) =>
      have := token?_length_lt h
      let scan := Scan.ofText after
      ⟨token :: scan.tokens, scan.residue⟩
    | none =>
      let scan := Scan.ofText rest
      ⟨scan.tokens, c :: scan.residue⟩
termination_by t => t.length
decreasing_by
  · exact this
  · exact Nat.lt_succ_self _

/-- The tokens of a region, if there are any and only blanks stand between them. -/
def tokens (region : Text) : Except Error (List Text) :=
  let scan := Scan.ofText region
  if scan.tokens = [] then .error (.noCommand region)
  else if Text.trim scan.residue ≠ [] then .error (.undefinedSymbols (Text.trim scan.residue))
  else .ok scan.tokens

end NCBlock

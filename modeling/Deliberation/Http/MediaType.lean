import Deliberation.Http.Header
/-! Media types: the two names of a type, and the parameters behind them. -/

namespace Deliberation.Http

structure Parameter where
  name : List Char
  value : List Char
deriving DecidableEq, Repr

namespace Parameter

def isQuotable (c : Char) : Bool :=
  31 < c.toNat && c.toNat ≠ 127

/-- The value at the front of a text, and what follows it. One without quotes is empty only at the
end. One between quotes has a character at least, which may be a quote, and blanks may follow it. -/
def value? : List Char → Option (List Char × List Char)
  | '"' :: first :: rest =>
    match rest.dropWhile fun c => c ≠ '"' && isQuotable c with
    | '"' :: behind =>
      if isQuotable first then
        some (first :: rest.takeWhile (fun c => c ≠ '"' && isQuotable c), behind.dropWhile (· = ' '))
      else none
    | _ => none
  | text =>
    let value := text.takeWhile isToken
    let rest := text.dropWhile isToken
    if value = [] ∧ rest ≠ [] then none else some (value, rest)

def read? (text : List Char) : Option (Parameter × List Char) :=
  match text.takeWhile isToken, text.dropWhile isToken with
  | first :: name, '=' :: rest => (value? rest).map fun parts => (⟨first :: name, parts.1⟩, parts.2)
  | _, _ => none

theorem value?_length_le {text value rest : List Char} (h : value? text = some (value, rest)) :
    rest.length ≤ text.length := by
  unfold value? at h
  split at h
  · rename_i first tail
    split at h
    · rename_i behind hbehind
      split at h
      · simp only [Option.some.injEq, Prod.mk.injEq] at h
        have := (List.dropWhile_suffix (p := fun c => c ≠ '"' && isQuotable c) (l := tail)).length_le
        have := (List.dropWhile_suffix (p := (· = ' ')) (l := behind)).length_le
        simp_all only [List.length_cons]
        omega
      · simp at h
    · simp at h
  · simp only at h
    split at h
    · simp at h
    · simp only [Option.some.injEq, Prod.mk.injEq] at h
      rw [← h.2]
      exact (List.dropWhile_suffix _).length_le

theorem read?_length_lt {text rest : List Char} {p : Parameter} (h : read? text = some (p, rest)) :
    rest.length < text.length := by
  unfold read? at h
  split at h
  · rename_i first name tail hname htail
    obtain ⟨parts, hparts, heq⟩ := Option.map_eq_some_iff.1 h
    simp only [Prod.mk.injEq] at heq
    have := value?_length_le hparts
    have := (List.dropWhile_suffix (p := isToken) (l := text)).length_le
    rw [htail, List.length_cons] at this
    rw [← heq.2]
    omega
  · simp at h

/-- The parameters in a text. Semicolons part them, behind which blanks may stand. -/
def all? (text : List Char) : Option (List Parameter) :=
  match _text : text.dropWhile (· = ' ') with
  | [] => some []
  | first :: rest =>
    match _h : read? (first :: rest) with
    | none => none
    | some (p, []) => some [p]
    | some (p, c :: behind) => if c = ';' then (all? behind).map (p :: ·) else none
termination_by text.length
decreasing_by
  have := read?_length_lt _h
  have := (List.dropWhile_suffix (p := (· = ' ')) (l := text)).length_le
  rw [_text] at this
  simp only [List.length_cons] at *
  omega

end Parameter

/-- The parameters of a media type, which is two names with a slash between them. -/
def parameters? (text : List Char) : Option (List Parameter) :=
  match text.takeWhile isToken, text.dropWhile isToken with
  | _ :: _, '/' :: rest =>
    match rest.takeWhile isToken, rest.dropWhile isToken with
    | _, [] => some []
    | _ :: _, ';' :: rest => Parameter.all? rest
    | _, _ => none
  | _, _ => none

/-- The value of the parameter of a name, in which capitals do not count. -/
def parameter? (text : List Char) (name : String) : Option (List Char) := do
  let parameter ← (← parameters? text).find? fun p => p.name.map Char.toLower = name.toList
  some parameter.value

end Deliberation.Http

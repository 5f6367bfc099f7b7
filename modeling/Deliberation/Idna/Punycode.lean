import Deliberation.Text.Blank
/-! Punycode, which writes a text in letters, digits and hyphens of ASCII. Characters of ASCII stand
first, before the last hyphen. Behind it follow the others in the order of their codes, each as the
number of steps from the one before it, in digits of a base of 36. -/

namespace Deliberation.Idna.Punycode

def digit (n : Nat) : Char :=
  if n < 26 then Char.ofNat ('a'.toNat + n) else Char.ofNat ('0'.toNat + (n - 26))

def digit? (c : Char) : Option Nat :=
  if 'a' ≤ c ∧ c ≤ 'z' then some (c.toNat - 'a'.toNat)
  else if 'A' ≤ c ∧ c ≤ 'Z' then some (c.toNat - 'A'.toNat)
  else if '0' ≤ c ∧ c ≤ '9' then some (c.toNat - '0'.toNat + 26)
  else none

/-- The value from which on a digit is not the last one of its number. -/
def threshold (weight bias : Nat) : Nat :=
  if weight ≤ bias then 1 else min 26 (weight - bias)

theorem threshold_bounds (weight bias : Nat) :
    1 ≤ threshold weight bias ∧ threshold weight bias ≤ 26 := by
  unfold threshold
  split <;> omega

/-- The bias for a number of steps, from which its last factors of 35 are taken. -/
def biasFrom (weight steps : Nat) : Nat :=
  if 455 < steps then biasFrom (weight + 36) (steps / 35) else weight + 36 * steps / (steps + 38)
termination_by steps
decreasing_by omega

/-- The bias behind a number of steps, after which some characters are written. -/
def adapt (steps written : Nat) (isFirst : Bool) : Nat :=
  let steps := if isFirst then steps / 700 else steps / 2
  biasFrom 0 (steps + steps / written)

def digits (bias weight n : Nat) : List Char :=
  let t := threshold weight bias
  if n < t then [digit n]
  else digit (t + (n - t) % (36 - t)) :: digits bias (weight + 36) ((n - t) / (36 - t))
termination_by n
decreasing_by
  have := threshold_bounds weight bias
  have := Nat.div_le_self (n - threshold weight bias) (36 - threshold weight bias)
  omega

/-- What has been written, in reversed order, and the steps since the last number. -/
structure Writer where
  text : List Char
  steps : Nat
  bias : Nat
  written : Nat

/-- Goes on to a character of a text while those of one code are written. -/
def Writer.visit (basic code : Nat) (w : Writer) (c : Char) : Writer :=
  if c.toNat < code then { w with steps := w.steps + 1 }
  else if c.toNat = code then
    { text := (digits w.bias 36 w.steps).reverse ++ w.text
      steps := 0
      bias := adapt w.steps (w.written + 1) (w.written = basic)
      written := w.written + 1 }
  else w

def Writer.run (text : List Char) (basic : Nat) (w : Writer) (from_ : Nat) : List Nat → Writer
  | [] => w
  | code :: rest =>
    let w := { w with steps := w.steps + (code - from_) * (w.written + 1) }
    let w := text.foldl (Writer.visit basic code) w
    Writer.run text basic { w with steps := w.steps + 1 } (code + 1) rest

/-- Puts a number into an ordered list without it. -/
def insert (n : Nat) : List Nat → List Nat
  | [] => [n]
  | m :: rest => if n < m then n :: m :: rest else if n = m then m :: rest else m :: insert n rest

def isAscii (c : Char) : Bool :=
  c.toNat < 0x80

def encode (text : List Char) : List Char :=
  let basic := text.filter isAscii
  let codes := (text.filter (!isAscii ·)).foldr (fun c codes => insert c.toNat codes) []
  let w := Writer.run text basic.length ⟨[], 0, 72, basic.length⟩ 0x80 codes
  basic ++ (if basic = [] then [] else ['-']) ++ w.text.reverse

/-- The number that some digits stand for, added to another one, and what follows it. Every step has a
value of 32 bits. -/
def number? (bias weight factor sum : Nat) : List Char → Option (Nat × List Char)
  | [] => none
  | c :: rest => do
    let value ← digit? c
    let t := threshold weight bias
    let sum := sum + value * factor
    if UInt32.size ≤ sum then none
    else if value < t then some (sum, rest)
    else if UInt32.size ≤ factor * (36 - t) then none
    else number? bias (weight + 36) (factor * (36 - t)) sum rest

theorem number?_length_lt {bias weight factor sum : Nat} {text rest : List Char} {n : Nat}
    (h : number? bias weight factor sum text = some (n, rest)) : rest.length < text.length := by
  induction text generalizing weight factor sum with
  | nil => simp [number?] at h
  | cons c text ih =>
    simp only [number?, bind, Option.bind_eq_some_iff] at h
    obtain ⟨value, _, h⟩ := h
    split at h
    · simp at h
    · split at h
      · simp only [Option.some.injEq, Prod.mk.injEq] at h
        simp [h.2]
      · split at h
        · simp at h
        · have := ih h
          rw [List.length_cons]
          omega

/-- Puts the characters that are left to read into a text, from a place and a code on. -/
def decodeFrom (bias code place : Nat) (text : List Char) (rest : List Char) : Option (List Char) :=
  match rest with
  | [] => some text
  | c :: rest =>
    match _h : number? bias 36 1 place (c :: rest) with
    | none => none
    | some (steps, behind) =>
      let length := text.length + 1
      let code := code + steps / length
      if code.isValidChar then
        decodeFrom (adapt (steps - place) length (place = 0)) code (steps % length + 1)
          (text.insertIdx (steps % length) (Char.ofNat code)) behind
      else none
termination_by rest.length
decreasing_by exact number?_length_lt _h

def decode? (text : List Char) : Option (List Char) :=
  let behind := (text.reverse.takeWhile (· ≠ '-')).reverse
  match (text.reverse.drop (behind.length + 1)).reverse with
  | [] => decodeFrom 72 0x80 0 [] text
  | basic => decodeFrom 72 0x80 0 basic behind

end Deliberation.Idna.Punycode

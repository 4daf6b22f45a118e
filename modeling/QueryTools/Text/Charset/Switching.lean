import QueryTools.Text.Charset.Hangul
import QueryTools.Text.Charset.Levels
import QueryTools.Text.Charset.Simplified

/-!
# Switching between sets

Character sets that write everything in seven bits and switch between planes by sequences of bytes:
those that begin with an escape, and one in which a tilde says that two bytes of a plane follow.
-/

namespace QueryTools.Text

/-- A set that can be switched to. -/
inductive CodedSet where
  | ascii
  /-- ASCII with two signs changed. -/
  | roman
  | halfKana
  | kanji
  /-- The plane of kanji under its older name. -/
  | oldKanji
  | moreKanji
  | firstLevels (edition : Edition)
  | laterLevels
  | simplified
  | hangul
  deriving DecidableEq, Repr

namespace CodedSet

/-- How many bytes a character of the set takes. -/
def width : CodedSet → Nat
  | .ascii | .roman | .halfKana => 1
  | _ => 2

/-- The set that the last byte of an escape stands for. -/
def of? (isWide : Bool) (final : Nat) : Option CodedSet :=
  match isWide, Char.ofNat final with
  | false, 'B' => some .ascii
  | false, 'J' => some .roman
  | false, 'I' => some .halfKana
  | true, '@' => some .oldKanji
  | true, 'B' => some .kanji
  | true, 'D' => some .moreKanji
  | true, 'O' => some (.firstLevels .first)
  | true, 'Q' => some (.firstLevels .second)
  | true, 'P' => some .laterLevels
  | true, 'A' => some .simplified
  | true, 'C' => some .hangul
  | _, _ => none

/-- What a byte stands for in the set, or two bytes; nothing if nothing. -/
def found? (s : CodedSet) (a b : Nat) : Option Found :=
  let place? (get? : Nat → Nat → Option Found) : Option Found :=
    if 0x21 ≤ a ∧ 0x21 ≤ b then get? (a - 0x21) (b - 0x21) else none
  let inPlane? (p : Plane) : Option Found :=
    place? fun row column => (p.get? row column).map (.char · 2)
  match s with
  | .ascii => some (.char (Char.ofNat a) 1)
  | .roman => some (.char (romanChar a) 1)
  | .halfKana => (halfKana? (a + 0x80)).map (.char · 1)
  | .kanji | .oldKanji => inPlane? kanjiPlane
  | .moreKanji => inPlane? moreKanjiPlane
  | .firstLevels edition => place? fun row column => firstLevels? edition row column 2
  | .laterLevels => place? fun row column => (laterLevels? row column).map (.char · 2)
  | .simplified => inPlane? simplifiedPlane
  | .hangul => inPlane? hangulPlane

end CodedSet

/-- Which sets can be switched to, and how. -/
structure Switching where
  sets : List CodedSet
  /-- Whether one byte switches between two sets chosen before. -/
  shifts : Bool
  deriving DecidableEq, Repr

/-- What is switched to. -/
structure SwitchState where
  first : CodedSet := .ascii
  second : CodedSet := .ascii
  isShifted : Bool := false
  /-- Whether an escape that says nothing of sets has not ended. -/
  passes : Bool := false

/-- Whether a byte ends an escape. -/
def endsEscape (b : Nat) : Bool := 0x40 ≤ b && b ≤ 0x5a

/-- The most bytes of an escape. -/
def longestEscape : Nat := 16

/-- How many bytes an escape has, given what follows its first byte. -/
def escapeLength (s : Switching) (rest : List Nat) : Option Nat :=
  if !s.shifts && rest.take 2 = [0x26, 0x40] then
    ((rest.drop 3).findIdx? endsEscape).map (· + 5)
  else (rest.findIdx? endsEscape).map (· + 2)

/-- Carries out an escape, given the bytes between its first and its last one and the last one. -/
def SwitchState.escape (st : SwitchState) (s : Switching) (between : List Nat) (final length : Nat) :
    Found × SwitchState :=
  let choose (isWide isSecond : Bool) : Found × SwitchState :=
    match CodedSet.of? isWide final with
    | some set =>
      if set = .ascii || s.sets.contains set then
        (.nothing length, if isSecond then { st with second := set } else { st with first := set })
      else (.bad length, st)
    | none => (.bad length, st)
  match between.map Char.ofNat with
  | ['('] => choose false false
  | [')'] => choose false true
  | ['$'] => choose true false
  | ['$', '('] => choose true false
  | ['$', ')'] => choose true true
  | ['&', '@', '\x1b', '$'] => if final = 0x42 then choose true false else (.bad length, st)
  | _ => (.bad length, st)

/-- Reads a character or an escape. -/
def SwitchState.read (st : SwitchState) (s : Switching) (a : Nat) (rest : List Nat) :
    Found × SwitchState :=
  if st.passes then (.char (Char.ofNat a) 1, { st with passes := !endsEscape a })
  else if a = 0x1b then
    match rest with
    | [] => (.cut, st)
    | b :: _ =>
      if [0x28, 0x29, 0x24, 0x2e, 0x26].contains b then
        match escapeLength s rest with
        | some length =>
          if length ≤ longestEscape then
            st.escape s (rest.take (length - 2)) (rest.getD (length - 2) 0) length
          else (.bad 1, st)
        | none => (if rest.length + 1 < longestEscape then .cut else .bad 1, st)
      else (.char '\x1b' 1, { st with passes := true })
  else if s.shifts && (a = 0x0e || a = 0x0f) then
    (.nothing 1, { st with isShifted := a = 0x0e })
  else if a = 0x0a then (.char '\n' 1, { st with isShifted := false })
  else if a < 0x20 then (.char (Char.ofNat a) 1, st)
  else if 0x80 ≤ a then (.bad 1, st)
  else
    let set := if st.isShifted then st.second else st.first
    if set.width = 1 then ((set.found? a 0).getD (.bad 1), st)
    else
      match rest with
      | [] => (.cut, st)
      | b :: _ => ((set.found? a b).getD (.bad 2), st)

/-- The characters of bytes, after bytes that belong to what was read before. -/
def Switching.decodeFrom (s : Switching) (st : SwitchState) (skip : Nat) :
    List Nat → List (Option Char)
  | [] => []
  | a :: rest =>
    match skip with
    | k + 1 => s.decodeFrom st k rest
    | 0 =>
      match st.read s a rest with
      | (.char c n, next) => some c :: s.decodeFrom next (n - 1) rest
      | (.two c d n, next) => some c :: some d :: s.decodeFrom next (n - 1) rest
      | (.nothing n, next) => s.decodeFrom next (n - 1) rest
      | (.bad n, next) => none :: s.decodeFrom next (n - 1) rest
      | (.cut, _) => [none]

/-- The characters of bytes. -/
def Switching.decode (s : Switching) (bytes : List Nat) : List (Option Char) :=
  s.decodeFrom {} 0 bytes

/-- The characters of bytes in which a tilde switches to the plane of simplified characters and
back. -/
def decodeTilde (isWide : Bool) (skip : Nat) : List Nat → List (Option Char)
  | [] => []
  | a :: rest =>
    match skip with
    | k + 1 => decodeTilde isWide k rest
    | 0 =>
      if a = 0x7e then
        match rest.head?, isWide with
        | none, _ => [none]
        | some 0x7e, false => some '~' :: decodeTilde false 1 rest
        | some 0x0a, false => decodeTilde false 1 rest
        | some 0x7b, false => decodeTilde true 1 rest
        | some 0x7d, true => decodeTilde false 1 rest
        | some _, _ => none :: decodeTilde isWide 0 rest
      else if 0x80 ≤ a then none :: decodeTilde isWide 0 rest
      else if isWide then
        match rest.head? with
        | none => [none]
        | some b =>
          match CodedSet.simplified.found? a b with
          | some (.char c _) => some c :: decodeTilde isWide 1 rest
          | _ => none :: decodeTilde isWide 0 rest
      else some (Char.ofNat a) :: decodeTilde isWide 0 rest

end QueryTools.Text

import Sift.Unicode.IdnaMapping
import Sift.Unicode.Mark
import Sift.Unicode.BidiClass
import Sift.Unicode.Joining
import Sift.Unicode.Punycode

/-!
# Domain names in URLs

`processDomain` checks a domain name the way URL hosts are checked: by the Unicode IDNA
compatibility processing, nontransitional, with joiners and bidirectional text checked, hyphens
and label lengths not checked, and the ASCII characters that URLs forbid in hosts refused.

1. Each character is mapped (`idnaStatus`): valid characters stay, ignored ones are dropped,
   mapped ones replaced. A disallowed character, or a forbidden ASCII character after mapping
   (`isForbiddenAscii`), makes the name invalid.
2. The mapped name is split into labels at full stops.
3. A label starting with `xn--` must be ASCII and Punycode; decoded, it must not be empty and not
   all ASCII (`decodeLabel`). Other labels are taken as they are.
4. Every non-empty label, decoded, must be valid (`labelValid`): it does not start with `xn--` or
   a combining mark, holds no full stop, holds only valid characters, its joiners stand where
   the contextual rules allow them (`joinersAllowed`), and, when any label holds a right-to-left
   character or an Arabic number, it satisfies the Bidi rule for domain labels (`bidiRule`).

The result is the mapped name with its labels as written (an `xn--` label stays encoded), which
is what decides whether a host is empty or ends in a number. Text is not normalized to NFC: for
text already in NFC, as typed hosts are, mapping keeps it so and the checks come out the same, but
an `xn--` label that decodes to text not in NFC is not refused.
-/

namespace Sift.Unicode

/-- Whether an ASCII character is forbidden in a URL host: the controls, space, delete and
`%#/:<>?@[\]^|`. -/
def isForbiddenAscii (c : Char) : Bool :=
  c.toNat ≤ 0x20 || c.toNat = 0x7F || "%#/:<>?@[\\]^|".contains c

/-- The text a character maps to in a domain name, or nothing when it is disallowed or maps to
a forbidden ASCII character. -/
def mapChar (c : Char) : Option (List Char) :=
  let mapped := match idnaStatus c with
    | .valid => some [c]
    | .ignored => some []
    | .mapped r => some r
    | .disallowed => none
  match mapped with
  | some r => if r.any isForbiddenAscii then none else some r
  | none => none

/-- The mapped form of a domain name, or nothing when a character cannot be mapped. -/
def mapName (cs : List Char) : Option (List Char) :=
  (cs.mapM mapChar).map List.flatten

/-- The label a label stands for: an `xn--` label decoded, which must be ASCII Punycode giving a
text that is not empty and not all ASCII; any other label as it is. -/
def decodeLabel (label : List Char) : Option (List Char) :=
  match label with
  | 'x' :: 'n' :: '-' :: '-' :: rest =>
    if label.any (·.toNat ≥ 0x80) then none
    else
      match Punycode.decode rest with
      | some u => if u.isEmpty || u.all (·.toNat < 0x80) then none else some u
      | none => none
  | _ => some label

/-- The zero width joiner, U+200D. -/
def zeroWidthJoiner : Char := Char.ofNat 0x200D

/-- The zero width non-joiner, U+200C. -/
def zeroWidthNonJoiner : Char := Char.ofNat 0x200C

/-- Whether the nearest character before a position (given nearest first) is a virama. -/
def afterVirama (before : List Char) : Bool :=
  match before with
  | c :: _ => isVirama c
  | [] => false

/-- Whether, skipping transparent characters, the nearest character on one side has one of the
joining types `types`. -/
def joinsOnSide (types : List JoiningType) (side : List Char) : Bool :=
  match side.dropWhile (joiningType · = .transparent) with
  | c :: _ => types.contains (joiningType c)
  | [] => false

/-- Whether the zero width joiners of a label stand where the contextual rules allow them. A
zero width joiner (U+200D) must follow a virama. A zero width non-joiner (U+200C) must follow a
virama, or stand between a left- or dual-joining character before it and a right- or
dual-joining character after it, with only transparent characters between. -/
def joinersAllowed (label : List Char) : Bool :=
  go [] label
where
  /-- Checks the characters of `rest`, with the characters before them, nearest first. -/
  go (before : List Char) : List Char → Bool
    | [] => true
    | c :: after =>
      let allowed :=
        if c = zeroWidthJoiner then afterVirama before
        else if c = zeroWidthNonJoiner then
          afterVirama before ||
            (joinsOnSide [.leftJoining, .dualJoining] before &&
              joinsOnSide [.rightJoining, .dualJoining] after)
        else true
      allowed && go (c :: before) after

/-- Whether a character makes a domain name bidirectional: right-to-left, an Arabic letter or an
Arabic number. -/
def isRightToLeftish (c : Char) : Bool :=
  [BidiClass.rightToLeft, .arabicLetter, .arabicNumber].contains (bidiClass c)

/-- The Bidi rule for a non-empty domain label. A right-to-left label starts with a
right-to-left character or Arabic letter, holds only right-to-left characters, Arabic letters,
numbers, separators, terminators, neutrals and nonspacing marks, ends (before trailing
nonspacing marks) with a right-to-left character, Arabic letter or number, and does not mix
European and Arabic numbers. A left-to-right label starts with a left-to-right character, holds
only left-to-right characters, European numbers, separators, terminators, neutrals and
nonspacing marks, and ends (before trailing nonspacing marks) with a left-to-right character or
European number. -/
def bidiRule (label : List Char) : Bool :=
  let classes := label.map bidiClass
  let last := (classes.reverse.dropWhile (· = .nonspacingMark)).head?
  match classes with
  | [] => true
  | first :: _ =>
    if first = .rightToLeft ∨ first = .arabicLetter then
      classes.all (fun b => [BidiClass.rightToLeft, .arabicLetter, .arabicNumber, .europeanNumber,
        .europeanSeparator, .commonSeparator, .europeanTerminator, .otherNeutral,
        .boundaryNeutral, .nonspacingMark].contains b) &&
      (match last with
        | some b => [BidiClass.rightToLeft, .arabicLetter, .europeanNumber,
            .arabicNumber].contains b
        | none => false) &&
      !(classes.contains .europeanNumber && classes.contains .arabicNumber)
    else if first = .leftToRight then
      classes.all (fun b => [BidiClass.leftToRight, .europeanNumber, .europeanSeparator,
        .commonSeparator, .europeanTerminator, .otherNeutral, .boundaryNeutral,
        .nonspacingMark].contains b) &&
      (match last with
        | some b => b = .leftToRight || b = .europeanNumber
        | none => true)
    else false

/-- Whether a decoded label is valid; `bidirectional` when the name holds a right-to-left
character or an Arabic number anywhere. An empty label is valid. -/
def labelValid (bidirectional : Bool) (label : List Char) : Bool :=
  match label with
  | [] => true
  | first :: _ =>
    label.take 4 != ['x', 'n', '-', '-'] && !label.contains '.' && !isMark first &&
      label.all (idnaStatus · == .valid) && joinersAllowed label &&
      (!bidirectional || bidiRule label)

/-- The mapped form of a valid domain name, labels as written; nothing for an invalid one. -/
def processDomain (name : List Char) : Option (List Char) := do
  let mapped ← mapName name
  let labels ← (mapped.splitOn '.').mapM decodeLabel
  let bidirectional := labels.any (·.any isRightToLeftish)
  if labels.all (labelValid bidirectional) then some mapped else none

end Sift.Unicode

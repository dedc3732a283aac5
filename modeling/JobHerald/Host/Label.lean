import JobHerald.Host.CodePoint
import JobHerald.Host.Mapping
import JobHerald.Host.Punycode
import JobHerald.Unicode.Name

/-!
# Labels of host names

A label is checked character by character and as a whole.  One with characters beyond
ASCII also has an encoded form, which a prefix marks.

## Main definitions

* `Host.checkDirections`, `Host.checkNameDirections` — the rules for labels, and for names,
  with characters from right to left.
* `Host.checkLabel` — all that a label has to meet.
* `Host.encodeLabel`, `Host.decodeLabel` — the two forms of a label.
-/

namespace JobHerald.Host

/-! ### Joiners -/

/-- Whether a character, next to a joiner, is not known: it has no name. -/
def isStrange (n : Nat) : Bool :=
  Unicode.markClass n = 0 && Unicode.category n = .other && (Unicode.name? n).isNone

/-- Whether a mark suppresses the vowel of the letter before it. -/
def isVirama (n : Nat) : Bool := Unicode.markClass n = 9

/-- The way in which the nearest letter is joined, of the letters from a joiner on. -/
def nearestJoining (ns : List Nat) : Joining :=
  match ns.dropWhile fun n => joining n = .transparent with
  | n :: _ => joining n
  | [] => .none

/-- Whether a joiner is allowed after some characters, the nearest first, and before
others. -/
def joinerAllowed (point : Nat) (before after : List Nat) : Bool :=
  match before with
  | [] => false
  | n :: _ =>
      !isStrange n &&
        (isVirama n ||
          (point = 0x200C &&
            (nearestJoining before = .left || nearestJoining before = .both) &&
            (nearestJoining after = .right || nearestJoining after = .both)))

/-! ### Characters beside others -/

/-- Whether a character is allowed in a label after some characters, the nearest first,
and before others. -/
def contextAllowed (label : List Nat) (point : Nat) (before after : List Nat) : Bool :=
  if point = 0xB7 then before.head? = some 0x6C && after.head? = some 0x6C
  else if point = 0x375 then after.head?.any isGreek
  else if point = 0x5F3 ∨ point = 0x5F4 then before.head?.any isHebrew
  else if point = 0x30FB then label.any fun n => n ≠ 0x30FB && isKanaOrHan n
  else if point < 0x6F0 then !label.any fun n => 0x6F0 ≤ n && n ≤ 0x6F9
  else !label.any fun n => 0x660 ≤ n && n ≤ 0x669

/-- The first fault of the characters of a label after some of them, the nearest
first. -/
def characterFault? (label : List Nat) : List Nat → List Nat → Option Fault
  | _, [] => none
  | before, n :: after =>
      let position := before.length + 1
      let fault? := match standing n with
        | .valid => none
        | .joiner =>
            if joinerAllowed n before after then none else some (.joiner n position label)
        | .contextual =>
            if contextAllowed label n before after then none
            else some (.contextual n position label)
        | .refused => some (.refused n position label)
      match fault? with
      | some f => some f
      | none => characterFault? label (n :: before) after

/-! ### Directions -/

/-- Whether a character makes a label one with characters from right to left. -/
def Direction.isRightward : Direction → Bool
  | .rightToLeft | .arabic | .arabicDigit => true
  | _ => false

/-- What the rest of a label has to meet from right to left, given the position, whether
the label could end here, and the kind of its digits. -/
def checkRightToLeft : Nat → Bool → Option Direction → List Direction → Except Fault Unit
  | _, mayEnd, _, [] => if mayEnd then .ok () else .error .lastDirection
  | position, mayEnd, digits, d :: rest =>
      match d with
      | .leftToRight => .error (.notRightToLeft position)
      | .rightToLeft | .arabic => checkRightToLeft (position + 1) true digits rest
      | .digit | .arabicDigit =>
          if digits.all (· = d) then checkRightToLeft (position + 1) true (some d) rest
          else .error .mixedDigits
      | .mark => checkRightToLeft (position + 1) mayEnd digits rest
      | .neutral => checkRightToLeft (position + 1) false digits rest

/-- What the rest of a label has to meet from left to right, given the position and
whether the label could end here. -/
def checkLeftToRight : Nat → Bool → List Direction → Except Fault Unit
  | _, mayEnd, [] => if mayEnd then .ok () else .error .lastDirection
  | position, mayEnd, d :: rest =>
      match d with
      | .leftToRight | .digit => checkLeftToRight (position + 1) true rest
      | .mark => checkLeftToRight (position + 1) mayEnd rest
      | .neutral => checkLeftToRight (position + 1) false rest
      | .rightToLeft | .arabic | .arabicDigit => .error (.notLeftToRight position)

/-- The directions of the characters of a label. -/
def directions (label : List Nat) : Nat → List Nat → Except Fault (List Direction)
  | _, [] => .ok []
  | position, n :: rest =>
      match direction? n with
      | some d => (directions label (position + 1) rest).map (d :: ·)
      | none => .error (.strangeDirection position label)

/-- The rule for the directions of the characters of a label. -/
def checkOrder (label : List Nat) (ds : List Direction) : Except Fault Unit :=
  match ds.head? with
  | some .rightToLeft | some .arabic => checkRightToLeft 1 false none ds
  | some .leftToRight => checkLeftToRight 1 false ds
  | _ => .error (.firstDirection label)

/-- The rule for labels with characters from right to left; all others meet it. -/
def checkDirections (label : List Nat) : Except Fault Unit := do
  let ds ← directions label 1 label
  if ds.any Direction.isRightward then checkOrder label ds else .ok ()

/-- The rule for names with characters from right to left, which all labels of the name have
to meet. -/
def checkNameDirections (labels : List (List Nat)) : Except Fault Unit := do
  let all ← labels.mapM fun label => directions label 1 label
  if all.any fun ds => ds.any Direction.isRightward then
    (labels.zip all).forM fun (label, ds) => checkOrder label ds
  else .ok ()

/-! ### Labels -/

/-- All that a label has to meet. -/
def checkLabel (label : List Nat) : Except Fault Unit :=
  if label.isEmpty then .error .emptyLabel
  else if 254 < label.length then .error .longLabel
  else if Unicode.composed label ≠ label then .error .notComposed
  else if (label.drop 2).take 2 = [45, 45] then .error .innerHyphens
  else if label.head? = some 45 ∨ label.getLast? = some 45 then .error .outerHyphen
  else if label.head?.any Unicode.isMark then .error .leadingMark
  else
    match characterFault? label [] label with
    | some f => .error f
    | none => checkDirections label

/-- The prefix of encoded labels. -/
def encodedPrefix : List Nat := [120, 110, 45, 45]

/-- A label in its own characters, from one of ASCII characters, all of them small. -/
def decodeLabel (label : List Nat) : Except Fault (List Nat) :=
  if inputLimit < label.length then .error .longLabel
  else if encodedPrefix.isPrefixOf label then
    let body := label.drop 4
    if body.isEmpty then .error .nothingEncoded
    else if body.getLast? = some 45 then .error .encodedHyphen
    else
      match Punycode.decode? body with
      | some ns =>
          if Punycode.encode ns ≠ body then .error .otherEncoding
          else (checkLabel ns).map fun _ => ns
      | none => .error .notEncoded
  else (checkLabel label).map fun _ => label

/-- A label in ASCII characters. -/
def encodeLabel (label : List Nat) : Except Fault (List Nat) := do
  if inputLimit < label.length then .error .longLabel
  else if label.all (· < 0x80) then
    let _ ← decodeLabel label
    if 63 < label.length then .error .longLabel else return label
  else
    checkLabel label
    let encoded := encodedPrefix ++ Punycode.encode label
    if 63 < encoded.length then .error .longLabel else return encoded

end JobHerald.Host

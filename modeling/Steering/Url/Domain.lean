import Steering.Text.Composition
import Steering.Text.Direction
import Steering.Text.Joining
import Steering.Text.Property
import Steering.Url.Punycode

/-!
# Domain names

A domain name may be written in any script. It is brought to one spelling, by folding and
composing its characters, and is then refused if it has a character that no name may have or if
one of its labels, the parts between full stops, is not well formed. A label that begins with
`xn--` stands for the text that its rest encodes, which must be spelled that way already.
-/

namespace Steering.Url

open Text (CodeSet)

/-! ### Characters of names -/

/-- Characters that no name may have, whatever they are folded to: controls, unassigned code
points and blanks, descriptions of ideographs, and stand-ins for other characters. -/
def neverInNames : CodeSet :=
  ((Text.Property.named? "c").getD .empty).union
    (((Text.Property.named? "z").getD .empty).union ⟨#[(0x2FF0, 0x2FFB), (0xFFFC, 0xFFFD)]⟩)

/-- Characters that stay as they are although folding would change them: two letters, and two
controls of joining. -/
def keptInNames : CodeSet := ⟨#[(0xDF, 0xDF), (0x3C2, 0x3C2), (0x200C, 0x200D)]⟩

/-- Characters that are left out of names. -/
def droppedFromNames : CodeSet :=
  .ofLines ["ad,34f,180b-180d,180f,200b,2060,2064,fe00-fe0f,feff,1bca0-1bca3,e0100-e01ef"]

/-- Full stops of other scripts. -/
def otherFullStops : CodeSet := ⟨#[(0x3002, 0x3002), (0xFF0E, 0xFF0E), (0xFF61, 0xFF61)]⟩

/-- ASCII characters that no name may have. -/
def isForbidden (c : Char) : Bool :=
  c.toNat ≤ 32 || c.toNat == 127 || "%#/:<>?@[\\]^|".toList.contains c

/-- Holds of characters that a name has in its one spelling. -/
def staysInNames (c : Char) : Bool :=
  if c.toNat < 128 then !c.isUpper
  else keptInNames.contains c ||
    (!neverInNames.contains c && !otherFullStops.contains c && Text.compatibilityFold c == [c])

/-- The spelling of a character. No full stop may come out of another character but the full
stops of other scripts. -/
def spelling? (c : Char) : Option (List Char) :=
  if staysInNames c then some [c]
  else if otherFullStops.contains c then some ['.']
  else if droppedFromNames.contains c then some []
  else
    let folded := Text.compatibilityFold c
    if !folded.isEmpty && folded.all (fun d => d != '.' && staysInNames d) then some folded
    else none

/-! ### Labels -/

def nonJoiner : Char := '\u200c'

def joiner : Char := '\u200d'

/-- Whether the two controls of joining stand where they make a difference; `before` is what
stands before the rest of the label, from its end. -/
def joinersFit (before : List Char) : List Char → Bool
  | [] => true
  | c :: rest =>
    let afterVirama := before.head?.any fun p => Text.combiningClass p == 9
    let joins := fun (side : CodeSet) (cs : List Char) =>
      (cs.dropWhile Text.transparentJoining.contains).head?.any fun p =>
        side.contains p || Text.dualJoining.contains p
    let fits :=
      if c = joiner then afterVirama
      else if c = nonJoiner then
        afterVirama || (joins Text.leftJoining before && joins Text.rightJoining rest)
      else true
    fits && joinersFit (c :: before) rest

/-- The categories of marks. -/
def marks : CodeSet := (Text.Property.named? "m").getD .empty

/-- The text of a label that begins with `xn--`, after these characters. It must have a character
that needs the encoding. -/
def encodedLabel? (cs : List Char) : Option (List Char) := do
  if 2000 < cs.length then none
  let text ← Punycode.decode? cs
  if text.any (fun c => 128 ≤ c.toNat) && text.all staysInNames && Text.compose text == text then
    some text
  else none

/-- The text of a label. -/
def labelText? (cs : List Char) : Option (List Char) := do
  let text ← match cs with
    | 'x' :: 'n' :: '-' :: '-' :: rest => encodedLabel? rest
    | _ => if cs.any (fun c => 128 ≤ c.toNat) && 1000 < cs.length then none else some cs
  if !text.any isForbidden && !text.head?.any marks.contains && joinersFit [] text then some text
  else none

/-! ### Direction -/

def isRightToLeft (d : Text.Direction) : Bool :=
  d == .rightToLeft || d == .arabicLetter || d == .arabicNumber

/-- Whether the characters of a label keep their order beside labels of other directions. -/
def directionsFit (label : List Char) : Bool :=
  let ds := label.map Text.direction
  let last := (ds.reverse.dropWhile (· == .mark)).head?
  let isCommon : Text.Direction → Bool := fun d =>
    d == .europeanNumber || d == .europeanSeparator || d == .commonSeparator ||
      d == .europeanTerminator || d == .neutral || d == .boundary || d == .mark
  match ds.head? with
  | none => true
  | some .leftToRight =>
    ds.all (fun d => d == .leftToRight || isCommon d) &&
      last.any fun d => d == .leftToRight || d == .europeanNumber
  | some .rightToLeft | some .arabicLetter =>
    ds.all (fun d => isRightToLeft d || isCommon d) &&
      last.any (fun d => isRightToLeft d || d == .europeanNumber) &&
      !(ds.contains .arabicNumber && ds.contains .europeanNumber)
  | some _ => false

/-! ### Names -/

/-- The one spelling of a domain name, its encoded labels decoded. -/
def domainText? (cs : List Char) : Option (List Char) := do
  let spelled ← cs.mapM spelling?
  let labels ← (Text.pieces '.' (Text.compose spelled.flatten)).mapM labelText?
  let hasDirection := labels.any fun label =>
    label.any fun c => isRightToLeft (Text.direction c)
  if hasDirection && !labels.all directionsFit then none
  else some (['.'].intercalate labels)

end Steering.Url

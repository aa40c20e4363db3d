import FeedIngest.Url.Address
import FeedIngest.Url.Domain.Composition
import FeedIngest.Url.Domain.Direction
import FeedIngest.Url.Domain.Joining
import FeedIngest.Url.Domain.Mapping
import FeedIngest.Url.Domain.Punycode

/-! Domain names. A name is brought to lower case and to one written form, cut into labels
at its points, and each label that is not ASCII is written in ASCII letters behind the mark
`xn--`. A label that comes in that form is read, and must be one that could have been
written. -/

namespace FeedIngest.Url.Domain

def isAscii (cs : List Char) : Bool := cs.all Punycode.isBasic

/-- ASCII characters that no host may hold. -/
def isForbidden (c : Char) : Bool :=
  c.toNat ≤ 0x20 || c.toNat = 0x7f ||
    ['%', '#', '/', ':', '<', '>', '?', '@', '[', '\\', ']', '^', '|'].contains c

/-- Whether a label holds nothing misplaced. -/
def isWellFormed (label : List Char) : Bool :=
  (match label with
    | [] => true
    | c :: _ => !isMark c) && joinersInPlace [] label

/-- The mark of labels that are written in ASCII letters. -/
def asciiMark : List Char := ['x', 'n', '-', '-']

/-- What a label reads, if it is one. -/
def readLabel? (label : List Char) : Option (List Char) :=
  if label.take 4 = asciiMark then do
    let text ← Punycode.decode? (label.drop 4)
    if !isAscii text && text.all isStable && composed text = text && isWellFormed text then
      some text
    else none
  else if isWellFormed label then some label
  else none

/-- How a label is written. -/
def writeLabel (label : List Char) : List Char :=
  if isAscii label then label else asciiMark ++ Punycode.encode label

/-- The ASCII form of a domain name. -/
def toAscii? (name : List Char) : Option (List Char) := do
  let labels := splitOn '.' (composed (← replaceAll? name))
  if labels.any (·.any isForbidden) then none
  let texts ← labels.mapM readLabel?
  if texts.any isRightward && !texts.all isOneWay then none
  some (['.'].intercalate (labels.map writeLabel))

end FeedIngest.Url.Domain

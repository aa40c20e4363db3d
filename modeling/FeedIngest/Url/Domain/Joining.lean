import FeedIngest.Url.Domain.Marks

/-! Invisible joiners. They change how their neighbours are drawn, so they may stand in a
label only where they do: behind a sign that takes a vowel away, and the one that parts its
neighbours also between letters that would be drawn joined. -/

namespace FeedIngest.Url.Domain

/-- How letters join: on both sides (D), to the left (L), to the right (R), not at all (U);
transparent characters (T) are looked through. -/
def joiningRuns : Runs := .ofText "
    0U adT 1U 252T 70U 113T 7U 107T 2dU 1T 1U 1T 2U 1T 2U 1T 1U 48T bU 1T 1U 3D 1U 1R 4D 1R 1D 1R
    1D 5R 4D dU 1D 7R 1D 2T 15U eD 2T 1R 3U 1R 3D 10R 12D 26R 1D 2R 9D 1R 1D 1R 1D 2R 2U 1R 1T 7U
    2T 6U 2T 2U 1T 4R 2U aD 3U 2D 1U fT 1R 1T 1D 3R 5D 4R 1D 9R 1D 1R 1D 1R 1D 2R 1T 1bU 2R 1D bR
    3D fR 2D 4R 1D 1R 2D 3R 2D 6U 26T bU 19D 21T 9U 9T 1U 18T 4U 1T 9U 1T 3U 1T 5U 12R 1D 5R 2D 1R
    1D aR 1D 1R 3T 3U 4D 1U 1D 4U 1R 1D 1R 2U 5R 13U 3D 1U 2D 5R 1D 1U 7T 9D aR 3U 1R 1D 2R 2D 6R
    1D fU 1T 18U 1T 20U 37T 1U 1T 1U 4T 8U 4T 1U 3T 7U aT 2U 1dT 1U 3aT 1U 4T 4U 8T 1U 14T 2U 1aT
    1U 2T 2U 39T 1U 4T 2U 4T 2U 2T 3U 3T 1U 1eT 2U 3T 1U bT 2U 39T 1U 4T 5U 1T 2U 4T 1U 14T 2U 16T
    6U 1T 1U 3aT 1U 2T 1U 1T 4U 8T 1U 7T 2U bT 2U 1eT 1U 3dT 1U cT 1U 32T 1U 3T 1U 37T 1U 1T 3U 5T
    3U 1T 4U 7T 2U bT 2U 1dT 1U 3aT 1U 2T 1U 6T 1U 5T 2U 14T 2U 1cT 2U 39T 2U 4T 4U 8T 1U 14T 2U
    1dT 1U 48T 1U 7T 3U 1T 1U 5aT 1U 2T 7U cT 8U 62T 1U 2T 9U bT 7U 49T 2U 1bT 1U 1T 1U 1T 1U 37T
    eU 1T 5U 1T 2U 5T bU 1T 24U 9T 1U 66T 4U 1T 6U 1T 2U 2T 2U 19T 2U 4T 3U 10T 4U dT 1U 2T 2U 6T
    1U fT 1U 2bfT 3U 3b2T 3U 1dT 2U 1eT 2U 1eT 2U 40T 2U 1T 7U 8T 1U 2T bU 9T 1U 29D 1U 3T 3U 1T
    1U 10D 59U cT 2D 22T 1D 1U 75T 3U 4T 2U 9T 1U 6T 3U dbT 2U 2T 1U 3aT 1U 1T 7U 1T 1U 1T 1U 2T
    8U 6T aU 2T 1U 30T 2eU 2T cU 14T 4U 30T 1U 1T 5U 1T 1U 5T 1U 28T 9U cT 2U 20T 4U 2T 2U 1T 3U
    38T 1U 1T 2U 3T 1U 1T 3U 3aT 8U 2T 2U 98T 3U 1T dU 1T 7U 4T 1U 6T 1U 3T 2U c6T 40U 20bT 1U 2T
    2U 1aT 5U 31T 5U 5T 6U 60T 21U bfeT 3U 8dT 1U 60T 20U 22aT 4U 6bT 2U 75d4T 4U 1T aU 20T 2U 50T
    2U 110T 1U 3T 1U 4T 1U 19T 2U 5T 1U 13D 32L 1U 51T 2U 1aT 12U dT 1U 26T 8U 19T bU 2eT 3U 30T
    1U 2T 4U 2T 2U 27T 1U 43T 6U 2T 2U 2T 2U cT 1U 8T 1U 2fT 1U 33T 1U 1T 3U 2T 2U 5T 2U 1T 1U 2aT
    2U 8T 1U eeT 1U 2T 1U 4T 1U 4f30T 1U 2e1T 10U 10T 10U cfT 1U f9T 3U 201T 1U e2T 1U 95T 5U 686T
    3U 1T 2U 5T 4U 28T 3U 4T 1U 80D 5R 1U 1R 1U 1R 2U 2L 1R 5D 4L 1D 5R 1D 3R 1U 2R 1T 2U 4D 4R 1U
    90D 1R 1D 1R 3D 3R 1D 2R 1D 1R 2D 1R 1U 17R 4D 2U 151L 1D 21R 1D 1T 4U 41T 5U 13dT 2U 15R 1D
    2U 1D 2U 32T 6U 30D 3R 1D 11U 1T bD 3R 1U 1bD 4R 2D cT 4U 2aD 1U 1D 2R 3U 1D 1R 2D 2R 1D 2U 1D
    1R 2D 1U 4R 1D 1L 1U 35T 1U 36T fU 29T 1U 2T 2U aT 3U 31T 4U 2T 2U 7T 1U 3dT 3U 24T 5U 1T 8U
    3eT 1U cT 2U 34T 9U aT 4U 2T 1U 5fT 3U 2T 1U 1T 2U 6T 1U 2T 1U 9dT 1U 3T 8U 15T 2U 39T 2U 3T
    1U 25T 7U 3T 5U 46T 6U dT 1U 1T 1U 1T 1U eT 2U 55T 8U 2T 3U 1T 1U 17T 1U 54T 6U 1T 1U 4T 2U 1T
    2U eeT 4U 6T 2U 1T 2U 1bT 2U 55T 8U 2T 1U 1T 2U 6aT 1U 1T 1U 2T 6U 1T 1U 65T 1U 1T 1U 2T 4U 1T
    5U 103T 9U 1T 2U 100T 2U 1T 1U 4T 1U 90T 4U 2T 2U 4T 1U 20T aU 28T 6U 2T 4U 8T 1U 9T 6U 2T 3U
    2eT dU 1T 2U c6T 1U 1T 3U 1T 1U c9T 7U 1T 6U 1T 1U 52T 16U 2T 7U 1T 2U 1T 2U 7aT 6U 3T 1U 1T
    2U 1T 7U 1T 1U 48T 2U 3T 1U 1T 1U 15bT 2U bT 2U 34T 5U 5T 1U 1T 1U 17T 1U 14d5T 11U 6T fU
    2cc8T cU 3T 3U 9c0T 5U 3bT 7U 418T 1U 3fT 4U 51T 1U 4cb8T 2U 1T 4U 125cT 2eU 2T 17U 220T 3U 9T
    10U 2T 7U 1eT 4U 94T 3U 7bbT 37U 4T 32U 8T 1U eT 1U 16T 5U 1T fU 550T 7U 1T 11U 2T 7U 1T 2U 1T
    5U 64T 1U a0T 7U 177T 1U 3dT 4U 1fcT 4U feT 2U f3T 1U 2T 1U 7T 2U 5T 1U 1daT 7U 29D 44T 8U
    c16b5T 1U 1eT 60U 80T f0U"

def parter : Char := Char.ofNat 0x200c

def joiner : Char := Char.ofNat 0x200d

/-- Whether the next character that is not transparent joins so. -/
def joinsAs (letters : List Char) (cs : List Char) : Bool :=
  match (cs.map joiningRuns.letter).dropWhile (· = 'T') with
  | [] => false
  | l :: _ => letters.contains l

/-- Whether all joiners of a text are in place, behind the reversed text before it. -/
def joinersInPlace (before : List Char) : List Char → Bool
  | [] => true
  | c :: cs =>
    let afterVirama := match before with
      | [] => false
      | b :: _ => combiningClass b = viramaClass
    (if c = joiner then afterVirama
      else if c = parter then
        afterVirama || (joinsAs ['L', 'D'] before && joinsAs ['R', 'D'] cs)
      else true) && joinersInPlace (c :: before) cs

end FeedIngest.Url.Domain

import FeedIngest.Url.Domain.Runs

/-! Directions of writing. In a domain with a label written from right to left, each label
has one direction: it begins with a letter of that direction, holds no letter of the other,
and ends, marks aside, with a letter of it or a number. -/

namespace FeedIngest.Url.Domain

/-- Left (L) and right (R) letters, numbers (E) and eastern numbers (A), marks (N), neutral
characters (O) and others (X). -/
def directionRuns : Runs := .ofText "
    0O 9X 5O eX 5O fE aO 7L 1aO 6L 1aO aX 1O 24L 1O 7E 2O 1L 1O 3E 1L 1O 5L 17O 1L 1fO 1L 1c1O 2L
    7O eL 2O eL 5O 9L 1O 11N 70L 4O 2L 8O 1L 5O 2L 1O 1L 6eO 1L 8cN 7L 100O 1L 2O 3R 1N 2dR 1N 1R
    1N 2R 1N 2R 1N 1R 38A 6O 2R 1O 2R 1O 1R 1O 2N bR 30N 15A aO 1A 2R 3N 1R 65N 7A 1O 1N 6R 2N 2O
    1N 4R 2E aR 17N 1R 1eN 1bR 5bN bR 3aN 9R 2O 4R 3N 1R 18N 4R 1N 9R 1N 3R 1N 5R 2bN 3R 34A 2R 6N
    8R 2aN 18A 1N 20L 37N 1L 1N 1L 4N 8L 4N 1L 3N 7L aN 2L 1dN 1L 3aN 1L 4N 4L 8N 1L 14N 2L eO 2L
    7O 1L 2N 1L 2N 2L 39N 1L 4N 2L 4N 2L 2N 3L 3N 1L 1eN 2L 3N 1L bN 2L 39N 1L 4N 5L 1N 2L 4N 1L
    14N 2L dO 1L 8N 6L 1N 1L 3aN 1L 2N 1L 1N 4L 8N 1L 7N 2L bN 2L 1eN 1L 3dN 1L cN 1L 25O 8L 5N 1L
    3N 1L 37N 1L 1N 3L 5N 3L 1N 4L 7N 2L bN 2L 14O 7L 2N 1L 3aN 1L fN 2L 14N 2L 1cN 2L 39N 2L 4N
    4L 8N 1L 14N 2L 1dN 1L 48N 1L 7N 3L 1N 1L 5aN 1L 2N 7L 4O 1L 7N 8L 62N 1L 2N 9L bN 7L 49N 2L
    1bN 1L 1N 1L 1N 1O 4L 33N eL 1N 5L 1N 2L 5N bL 1N 24L 9N 1L 66N 4L 1N 6L 1N 2L 2N 2L 19N 2L 4N
    3L 10N 4L dN 1L 2N 2L 6N 1L fN 1L 2bfN 3L 30O aL 66O 1L 27fX 1L 1aO 2L 75N 3L 1dN 2L 1eN 2L
    1eN 2L 40N 2L 1N 7L 8N 1L 2N bL 7O 1L 1N 1L 12O aL 6O bN 3O 1N 1L 75N 2L 22N 1L 76N 3L 4N 2L
    9N 1L 6N 3L 4O 1L 3O 2L 98O 22L 17N 2L 2N 1L 3aN 1L 1N 7L 1N 1L 1N 1L 2N 8L 6N aL 2N 1L 30N
    1fL 31N 4L 30N 1L 1N 5L 1N 1L 5N 1L 28N 9L cN 2L 20N 4L 2N 2L 1N 3L 38N 1L 1N 2L 3N 1L 1N 3L
    3aN 8L 2N 2L 98N 3L 1N dL 1N 7L 4N 1L 6N 1L 3N 2L c6N 40L 1bdO 1L 1O 3L bO 3L dO 3L dO 3L dO
    2L 1X bO 3L 1R 1O 18X 7O 30X 1O 6X 4O 6E 1L 3E 6O 5L 1E aO 5L 11O 30N 21L fO 2L 1O 4L 1O 2L aO
    1L 1O 3L 5O 6L 1O 1L 1O 1L 1O 1L 4O 1L bO 2L 4O 5L 5O 4L 2O 10L 29O 3L 4O 1a6L 45O 1aL 1O 91L
    19O bL 15O 28E 14L 4eO 1c2L 1O 153L 100O 274L 2O 20L 1O 69L e5O 6L 4N 3L 7O 7L 7fN 1L 60N 20O
    5eL 22O 1aL 1O 59L cO d6L 1aO cL 4X 1O 4L 3O 19L 9N 4L 2O 1L 5O 2L 5O 3L 59N 2O 2L 3O 1L 5aO
    1L c4O 24L 39O 2L 31O 10L 1cO 3L 32O fL cO 4L a7O 4L 63O 2L 1fO 1L 19c0O 40L 5690O 37L 146O 3L
    5fN 4O 1N aO 2L 1eN 2L 50N 2L eO 22L 66O 1L 79N 1L 3N 1L 4N 1L 19N 2L 1O 4N 1L bO 2L 3aO 4L
    4cN 2L 1aN 12L dN 1L 26N 8L 19N bL 2eN 3L 30N 1L 2N 4L 2N 2L 27N 1L 43N 6L 2N 2L 2N 2L cN 1L
    8N 1L 2fN 1L 33N 1L 1N 3L 2N 2L 5N 2L 1N 1L 2aN 2L 8N 1L 73O 2L 79N 1L 2N 1L 4N 1L 4f2fR 1N 1R
    aO 1R 214O 12R 7fO 21R dO 3N 10O aL 6N 10O 23L 1O 13L 1O 4L 4R 8fO 1L 1O fE aO 7L 1aO 6L 1aO
    bL 7aO 7L 1O 7L 1O 10L 101O 1L 3eO 4dL 3O dL 3O 1L 5cN 1L e2N 1E 1bL 7aN 5L 485R 11fO 1R e1N
    3R 1N 2R 5N 4R 28N 3R 4N 1R a5N 2R 52O 7R 1e4N 4R 8A aR 126A 1fR 2cN 2R 50N 3R 46N bR 31N 4R
    7aL 1N 1L 36N fL bO 14L aN 1L 2N 2L aN 3L 31N 4L 2N 2L 7N 1L 3dN 3L 24N 5L 1N 8L 3eN 1L cN 2L
    34N 9L aN 4L 2N 1L 5fN 3L 2N 1L 1N 2L 6N 1L 2N 1L 9dN 1L 3N 8L 15N 2L 39N 2L 3N 1L 25N 7L 3N
    5L c3N 8L 2N 3L 1N 1L 17N 1L 54N 6L 1N 1L 4N 2L 1N 2L eeN 4L 6N 2L 1N 2L 1bN 2L 55N 8L 2N 1L
    1N 2L 1fO dL 3eN 1L 1N 1L 2N 6L 1N 1L 65N 3L 2N 4L 1N 5L 103N 9L 1N 2L 100N 2L 1N 1L 4N 1L 90N
    4L 2N 2L 4N 1L 20N 6L 2N 2L 28N 6L 2N 4L 8N 1L 9N 6L 2N 3L 2eN dL 1N 2L 196N 7L 1N 6L 54N 16L
    2N 7L 1N 2L 1N 2L 7aN 6L 3N 1L 1N 2L 1N 7L 1N 1L 48N 2L 3N 1L 1N 1L 15bN 2L bN 2L 34N 5L 5N 1L
    1N 1L 92O 1dL 144eN 1L 6N fL 369aN 5L 3bN 7L 418N 1L 3fN 4L 4fO 1L 1N 1L 4cb8N 2L 1O 4L 125cN
    2eL 2N 17L 220N 3L 9O 8N 8L 2N 7L 1eN 4L 3bO 2L 15O 42N 3O 1L baO 57L 384O 1L 39O 1L 39O 1L
    39O 1L 39O 1L aE 32L 200N 37L 4N 32L 8N 1L eN 1L 16N 5L 1N fL 550N 7L 1N 11L 2N 7L 1N 2L 1N 5L
    64N 1L a0N 7L 177N 1L 3dN 4L fO 1L 1ecN 4L 310R d0N 7R 6dN 7R 5a5O 2R 10eO 2cL 4O 64L cO fL 2O
    fL 1O fL 1O 25L aE bO 5L 1fO 1L 3aO 6L 3dO 1L b2O 6L 9aO 3d8L 4O 11L 3O dL 3O 77L 4O 5fL 6O cL
    4O 1L fO cL 4O 38L 8O aL 6O 28L 8O 1eL 2O 2L 4eO 154L cO eL 2O dL 3O 9L 7O 2eL 1O 7L 8O eL 4O
    9L 7O 9L 7O 93L 1O 37L 25E aL 404O 2L fffeO 2L fffeO 2L fffeO 2L fffeO 2L fffeO 2L fffeO 2L
    fffeO 2L fffeO 2L fffeO 2L fffeO 2L fffeO 2L fffeO 102N f0O e10L effeO 2L fffeO 2L fffeO 2L"

/-- Whether a label makes its domain one of both directions. -/
def isRightward (label : List Char) : Bool :=
  label.any fun c => directionRuns.letter c = 'R' || directionRuns.letter c = 'A'

/-- Whether a label has one direction. -/
def isOneWay (label : List Char) : Bool :=
  let classes := label.map directionRuns.letter
  let last := (classes.reverse.dropWhile (· = 'N')).head?
  match classes with
  | [] => true
  | 'L' :: _ =>
    classes.all (['L', 'E', 'O', 'N'].contains ·) && (last = some 'L' || last = some 'E')
  | 'R' :: _ =>
    classes.all (['R', 'A', 'E', 'O', 'N'].contains ·) &&
      (last = some 'R' || last = some 'A' || last = some 'E') &&
      !(classes.contains 'A' && classes.contains 'E')
  | _ => false

end FeedIngest.Url.Domain

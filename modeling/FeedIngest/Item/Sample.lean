import FeedIngest.Crash

/-! Sample items: for each identifier the item that a scripted feed serves. Its time is a
fixed moment plus the identifier, so that there is none for the highest identifiers. -/

namespace FeedIngest.Item

/-- The time of the sample item of identifier zero. -/
def sampleEpoch : Nat := 1700000000

/-- The payload of a sample item with the given number for its time. -/
def samplePayload (id : ItemId) (time : Nat) : String :=
  let digits := String.ofList (Digits.write time)
  "\x7b\"by\":\"user" ++ id.text ++ "\",\"id\":" ++ id.text ++ ",\"time\":" ++ digits ++
    ",\"type\":\"comment\"\x7d"

def sample (id : ItemId) : Except Crash Item :=
  let time := sampleEpoch + id.toNat
  if ItemId.limit < time then .error .additionOverflow
  else match parse (samplePayload id time) with
    | .ok item => .ok item
    | .error e => .error (.invalidSample e)

end FeedIngest.Item

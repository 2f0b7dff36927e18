/-!
# Regions

A node registers with a region tag as free text.  Eight tags name a region, and a region's place in
the list is its row and column in a table of costs.
-/

namespace MixRounds

/-- A coarse part of the world. -/
inductive Region where
  | americas
  | westernEurope
  | centralEurope
  | easternEurope
  | middleEast
  | africa
  | russia
  | asia
  deriving DecidableEq, Repr

namespace Region

def all : List Region :=
  [americas, westernEurope, centralEurope, easternEurope, middleEast, africa, russia, asia]

/-- Row and column in a table of costs. -/
def index : Region → Fin 8
  | americas => 0
  | westernEurope => 1
  | centralEurope => 2
  | easternEurope => 3
  | middleEast => 4
  | africa => 5
  | russia => 6
  | asia => 7

/-- The tag of a region. -/
def tag : Region → String
  | americas => "Americas"
  | westernEurope => "WesternEurope"
  | centralEurope => "CentralEurope"
  | easternEurope => "EasternEurope"
  | middleEast => "MiddleEast"
  | africa => "Africa"
  | russia => "Russia"
  | asia => "Asia"

/-- The region that a tag names, letter for letter. -/
def ofTag? (s : String) : Option Region := all.find? fun r => r.tag = s

theorem ofTag?_tag (r : Region) : ofTag? r.tag = some r := by cases r <;> decide

end Region

end MixRounds

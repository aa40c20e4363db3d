import FeedIngest.Url.Domain.Runs

/-! Marks: characters that belong to the one before them. A mark has a class, and marks of
different classes after one base may be written in any order. -/

namespace FeedIngest.Url.Domain

/-- The marks (M), with what lies between them (V). -/
def markRuns : Runs := .ofText "
    0V 300M 70V 113M 7V 107M 2dV 1M 1V 1M 2V 1M 2V 1M 1V 48M bV 30M 15V 10M 1V 65M 7V 2M 6V 2M 2V
    1M 4V 23M 1V 1eM 1bV 5bM bV 3aM 9V 9M 1V 18M 4V 1M 9V 1M 3V 1M 5V 2bM 3V 3cM 8V 2aM 18V 1M 21V
    36M 3V 1M 12V 1M 7V aM 2V 1dM 3V 38M 1V 1M 7V 2M 2V 2M 3V 9M 1V aM 2V 1aM 1V 2M 3V 38M 1V 1M
    5V 4M 2V 2M 3V 3M 1V 1eM 2V 3M 1V bM 3V 38M 1V 1M 8V 1M 3V 1M 3V 14M 2V 16M 6V 1M 3V 38M 1V 1M
    7V 2M 2V 2M 3V 7M 3V aM 2V 1eM 1V 3bM 5V 3M 3V 1M 4V 9M 1V 28M 5V 37M 1V 1M 7V 1M 3V 1M 4V 7M
    2V bM 2V 1dM 3V 38M 1V 1M 7V 1M 3V 1M 4V 7M 2V bM 2V fM 1V cM 4V 37M 2V 1M 7V 1M 3V 1M 4V 9M
    1V aM 2V 1dM 3V 46M 1V 4M 6V 1M 1V 1M 8V 12M 2V 3dM 1V 2M 7V cM 8V 62M 1V 2M 9V bM 7V 49M 2V
    1bM 1V 1M 1V 1M 1V 4M 2V 31M 14V 1M 2V 5M bV 1M 24V 9M 1V 64M 14V 17M 4V 4M 3V 1M 3V 2M 7V 3M
    4V dM cV 1M 1V aM 4V 2bfM 3V 3b2M 4V 1cM 3V 1dM 2V 1eM 2V 40M 20V 9M 1V 2dM 3V 1M 1V 75M 2V
    22M 1V 76M cV 4M cV dbM 5V 39M aV 1M 1dV 2M 1V 30M 1fV 31M 5V 2fM 11V 26M 9V cM 3V 1eM dV 38M
    eV 30M 14V 98M 3V 1M 15V 4M 1V 6M 1V 2M 3V c6M 40V 2d0M 21V bfeM 3V 8dM 1V 60M 20V 22aM 6V 69M
    2V 75d4M 4V 1M aV 20M 2V 50M 2V 110M 1V 3M 1V 4M 1V 17M 5V 4M 1V 53M 2V 32M 12V 1aM 12V dM 1V
    26M 8V 19M dV 2cM 4V 2fM eV 24M 1V 43M eV cM 1V 8M 2V 2dM 3V 32M 1V 1M 3V 2M 2V 5M 2V 1M 1V
    29M 5V 5M 2V ecM 8V 1M 2V 4f30M 1V 2e1M 10V 10M 10V 3cdM 1V e2M 1V 95M 5V 686M 3V 1M 2V 5M 4V
    28M 3V 4M 1V a5M 2V 23dM 4V 183M 2V 50M 3V 46M bV 31M 4V 7aM 3V 35M fV 29M 1V 2M 2V aM 4V 2dM
    bV 7M 1V 3dM 3V 24M eV 10M 2V 2cM 1V cM 3V 30M eV 8M 4V 1M 2V 5cM cV 6M 1V 2M 1V 9dM cV 15M 4V
    37M 2V 1M 7V 2M 2V 2M 3V 9M 1V aM 2V 2M 7V 3M 5V c0M 12V 17M 1V 51M 14V ebM 7V 2M 9V 1bM 2V
    52M 11V 6aM dV 65M fV 100M fV f5M 6V 1M 2V 2M 4V 1M 1V 1M 2V 8dM 7V 2M 7V 3M 1V 1cM aV 28M 7V
    1M 4V 8M 1V 9M bV 2eM 10V 195M 8V 1M 8V 52M 16V 1M eV 7aM 6V 3M 1V 1M 2V 1M 7V 1M 1V 42M 5V 1M
    2V 1M 5V 15bM 4V 9M 2V 1M 1V 30M 7V 3M 5V 14fdM 1V 6M fV 369aM 5V 3bM 7V 418M 1V 1M 37V 7M 4V
    51M 1V bM 2V 4cabM 2V 1261M 2eV 2M 17V 21eM 5V 3M 6V 8M 8V 2M 7V 1eM 4V 94M 3V 7bbM 37V 4M 32V
    8M 1V eM 1V 16M 5V 1M fV 550M 7V 1M 11V 2M 7V 1M 2V 1M 5V 64M 1V a0M 7V 177M 1V 3dM 4V 1fcM 4V
    3e0M 7V 6dM 7V c17b5M f0V"

/-- The combining classes. -/
def classRuns : Runs := .ofText "
    0C0 300Ce6 15Ce8 1Cdc 4Ce8 1Cd8 1Cdc 5Cca 2Cdc 4Cca 2Cdc bC1 5Cdc 4Ce6 8Cf0 1Ce6 1Cdc 3Ce6
    3Cdc 2C0 1Ce6 3Cdc 4Ce6 1Ce8 1Cdc 2Ce6 1Ce9 1Cea 2Ce9 1Cea 2Ce9 1Ce6 dC0 113Ce6 5C0 109Cdc
    1Ce6 4Cdc 1Ce6 3Cde 1Cdc 1Ce6 6Cdc 6Ce6 2Cdc 1Ce6 2Cde 1Ce4 1Ce6 1Ca 1Cb 1Cc 1Cd 1Ce 1Cf 1C10
    1C11 1C12 1C13 2C14 1C15 1C16 1C0 1C17 1C0 1C18 1C19 1C0 1Ce6 1Cdc 1C0 1C12 1C0 48Ce6 8C1e
    1C1f 1C20 1C0 30C1b 1C1c 1C1d 1C1e 1C1f 1C20 1C21 1C22 1Ce6 2Cdc 2Ce6 5Cdc 1Ce6 2Cdc 1C0 10C23
    1C0 65Ce6 7C0 2Ce6 4Cdc 1Ce6 1C0 2Ce6 2C0 1Cdc 1Ce6 2Cdc 1C0 23C24 1C0 1eCe6 1Cdc 1Ce6 2Cdc
    1Ce6 2Cdc 3Ce6 1Cdc 2Ce6 1Cdc 1Ce6 3Cdc 1Ce6 1Cdc 1Ce6 1Cdc 1Ce6 1Cdc 1Ce6 2C0 a0Ce6 7Cdc 1Ce6
    1C0 9Cdc 1C0 18Ce6 4C0 1Ce6 9C0 1Ce6 3C0 1Ce6 5C0 2bCdc 3C0 3cCe6 1Cdc 3Ce6 4C0 2aCe6 5Cdc
    5Ce6 eC0 1Cdc 1Ce6 2Cdc 1Ce6 2Cdc 1Ce6 3Cdc 3C1b 1C1c 1C1d 1Ce6 3Cdc 1Ce6 2Cdc 2Ce6 5C0 3cC7
    1C0 10C9 1C0 3Ce6 1Cdc 1Ce6 2C0 67C7 1C0 10C9 1C0 30Ce6 1C0 3dC7 1C0 10C9 1C0 6eC7 1C0 10C9
    1C0 6eC7 1C0 10C9 1C0 7fC9 1C0 6eC7 1C0 10C9 1C0 7C54 1C5b 1C0 65C7 1C0 10C9 1C0 6dC9 2C0 10C9
    1C0 7cC9 1C0 6dC67 2C9 1C0 dC6b 4C0 6cC76 2C9 1C0 dC7a 4C0 4cCdc 2C0 1bCdc 1C0 1Cdc 1C0 1Cd8
    1C0 37C81 1C82 1C0 1C84 1C0 5C82 4C0 2C82 1C0 1Ce6 2C9 1C0 1Ce6 2C0 3eCdc 1C0 70C7 1C0 1C9 2C0
    52Cdc 1C0 2cfCe6 3C0 3b4C9 2C0 1eC9 1C0 9dC9 1C0 aCe6 1C0 cbCe4 1C0 8fCde 1Ce6 1Cdc 1C0 dbCe6
    1Cdc 1C0 47C9 1C0 14Ce6 8C0 2Cdc 1C0 30Ce6 5Cdc 6Ce6 2Cdc 1C0 1Cdc 2Ce6 2Cdc 2Ce6 5Cdc 1Ce6
    4C0 65C7 1C0 fC9 1C0 26Ce6 1Cdc 1Ce6 7C0 36C9 2C0 3aC7 1C0 bC9 2C0 43C7 1C0 98Ce6 3C0 1C1 1Cdc
    5Ce6 2Cdc 4Ce6 1C0 1C1 7C0 4Cdc 1C0 6Ce6 1C0 3Ce6 2C0 c6Ce6 2Cdc 1Ce6 7Cdc 1Ce6 2Cea 1Cd6 1Cdc
    1Cca 1Ce6 25Ce8 1Ce4 2Cdc 1Cda 1Ce6 1Ce9 1Cdc 1Ce6 1Cdc 1C0 2d0Ce6 2C1 2Ce6 4C1 3Ce6 2C0 4Ce6
    1C0 3C1 2Ce6 1Cdc 1Ce6 1C1 2Cdc 4Ce6 1C0 bfeCe6 3C0 8dC9 1C0 60Ce6 20C0 22aCda 1Ce4 1Ce8 1Cde
    1Ce0 2C0 69C8 2C0 75d4Ce6 1C0 4Ce6 aC0 20Ce6 2C0 50Ce6 2C0 114C9 1C0 25C9 1C0 97C9 1C0 1bCe6
    12C0 39Cdc 3C0 25C9 1C0 5fC7 1C0 cC9 1C0 efCe6 1C0 1Ce6 2Cdc 1C0 2Ce6 2C0 5Ce6 2C0 1Ce6 1C0
    34C9 1C0 f6C9 1C0 4f30C1a 1C0 301Ce6 7Cdc 7Ce6 2C0 3cdCdc 1C0 e2Cdc 1C0 95Ce6 5C0 692Cdc 1C0
    1Ce6 1C0 28Ce6 1C1 1Cdc 1C0 4C9 1C0 a5Ce6 1Cdc 1C0 23dCe6 4C0 183Ce6 2C0 50Cdc 3C0 46Cdc 2Ce6
    3Cdc 1Ce6 1Cdc 4C0 31Ce6 1Cdc 1Ce6 1Cdc 1C0 c0C9 1C0 29C9 1C0 eC9 1C0 39C9 1C7 1C0 45Ce6 3C0
    30C9 2C0 3eC7 1C0 4cC9 1C0 9C7 1C0 6aC9 1C7 1C0 b2C7 1C9 1C0 50C7 2C0 10C9 1C0 18Ce6 7C0 3Ce6
    5C0 cdC9 1C0 3C7 1C0 17Ce6 1C0 63C9 1C7 1C0 fbC9 1C7 1C0 7eC9 1C0 76C9 1C7 1C0 73C9 1C0 10dC9
    1C7 1C0 102C9 2C0 4C7 1C0 9cC9 1C0 53C9 1C0 12C9 1C0 51C9 1C0 1a5C9 1C0 102C7 1C0 1C9 2C0 51C9
    1C0 1a9C9 2C0 4badC1 5C0 3bCe6 7C0 4b9C6 2C0 4cacC1 1C0 14c6Cd8 2C1 3C0 3Ce2 1Cd8 5C0 8Cdc 8C0
    2Ce6 5Cdc 2C0 1eCe6 4C0 94Ce6 3C0 dbbCe6 7C0 1Ce6 11C0 2Ce6 7C0 1Ce6 2C0 1Ce6 5C0 64Ce6 1C0
    a0Ce6 7C0 177Ce6 1C0 3dCe6 4C0 1fcCe8 2Cdc 1Ce6 1C0 3e0Cdc 7C0 6dCe6 6C7 1C0"

def isMark (c : Char) : Bool := markRuns.letter c = 'M'

/-- The combining class, zero for a base. -/
def combiningClass (c : Char) : Nat :=
  (((classRuns.at? c).bind (·.values.head?)).getD 0).toNat

/-- The class of the signs that take a consonant's vowel away. -/
def viramaClass : Nat := 9

end FeedIngest.Url.Domain

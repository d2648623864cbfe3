import Succession.Stage
import Succession.Digest.Sha1
import Succession.Text.Hex
import Succession.Text.Numeral
import Succession.Text.Chain

/-!
# The stage marker

`<stage>/<nanoseconds>/<signature>[:<previous value>]`: the stage of the process that reads it, the
instant of writing since the epoch, and the SHA-1 of the two in hexadecimal. A marker is good for
sixty seconds. Whatever else the variable holds belongs to somebody else and is carried as it is.

* `StageMarker.encode`  the marker's text;
* `StageMarker.decode`  reads any value; it never fails.
-/

namespace Succession

structure StageMarker where
  stage : Stage
  /-- the value of the variable before the sequence began, if there was one -/
  carried : Option String
  /-- the value was a fresh marker with a matching signature -/
  trusted : Bool
deriving DecidableEq, Repr

namespace StageMarker

/-- a marker older than this belongs to somebody else -/
def lifetime : Int := 60000000000

/-- the signature of a stage and an instant, both as written -/
def signature (stage nanos : List Char) : List Char :=
  Hex.encode (Sha1.digest (Bytes.ofText (String.ofList (stage ++ '/' :: nanos))))

/-- the part of a marker in front of the carried value -/
def head (stage : Stage) (nanos : Nat) : List Char :=
  let s := Numeral.render stage.index
  let n := Numeral.render nanos
  s ++ '/' :: (n ++ '/' :: signature s n)

/-- the marker of `stage` written at `now` nanoseconds since the epoch; an instant before the epoch
counts as the epoch -/
def encode (stage : Stage) (carried : Option String) (now : Int) : String :=
  String.ofList (Chain.join ':' (head stage now.toNat) (carried.map String.toList))

/-- a value that is no marker: the chain has not begun, and the value is carried whole -/
def foreign (raw : Option String) : StageMarker := ⟨.parent, raw, false⟩

/-- the text up to the first two slashes, between them and behind them -/
def fields? (text : List Char) : Option (List Char × List Char × List Char) :=
  match Chain.split '/' text with
  | (_, none) => none
  | (stage, some rest) => match Chain.split '/' rest with
    | (_, none) => none
    | (nanos, some sign) => some (stage, nanos, sign)

/-- the stage that the part in front of the carried value announces at `now` -/
def stageOf? (text : List Char) (now : Int) : Option Stage := do
  let (stage, nanos, sign) ← fields? text
  guard (signature stage nanos = sign)
  let stage ← Stage.ofIndex? (← Numeral.parse? Numeral.max8 stage)
  let nanos ← Numeral.parse? Numeral.max64 nanos
  guard ((nanos : Int) ≤ now ∧ now - nanos ≤ lifetime)
  return stage

/-- what a value says at `now` nanoseconds since the epoch -/
def decode (raw : Option String) (now : Int) : StageMarker :=
  match raw with
  | none => foreign none
  | some text =>
    let (first, carried) := Chain.split ':' text.toList
    match stageOf? first now with
    | some stage => ⟨stage, carried.map String.ofList, true⟩
    | none => foreign (some text)

end StageMarker
end Succession

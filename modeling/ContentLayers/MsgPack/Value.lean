import ContentLayers.Binary32
import ContentLayers.Bytes

/-!
# MessagePack values

A value is its wire contents: the unsigned and signed integer families stay apart, and strings are
bytes that need not be UTF-8.
-/

namespace ContentLayers.MsgPack

inductive Value where
  | nil
  | bool (b : Bool)
  | uint (n : UInt64)
  | int (i : Int64)
  | single (x : Binary32)
  | double (bits : UInt64)
  | str (bs : Bytes)
  | bin (bs : Bytes)
  | array (items : List Value)
  | map (pairs : List (Value × Value))
  | ext (type : UInt8) (bs : Bytes)
  deriving Repr, Inhabited, BEq

namespace Value

def text (s : String) : Value := .str (.ofText s)

/-- A natural number stays in the unsigned family, and a negative number in the signed one. -/
def integer (i : Int) : Value := if i < 0 then .int (.ofInt i) else .uint (.ofNat i.toNat)

/-- The number, of either family. -/
def integer? : Value → Option Int
  | .uint n => some n.toNat
  | .int i => some i.toInt
  | _ => none

/-- The bytes of a string or of binary data. -/
def bytes? : Value → Option Bytes
  | .str bs | .bin bs => some bs
  | _ => none

end Value

end ContentLayers.MsgPack

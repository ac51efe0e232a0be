import Frrpc.Lib.Bytes

/-!
# `Public.Pb2js` — messages as JSON values (`rpc_pb2js.cpp`)

A message is read through its descriptor and its reflection: field by field, in the descriptor's order. The
JSON value is built in place: `none` stands for `AddMember` on a value that is no object, `PushBack` on one
that is no array, and a member looked up in a value that is no object. What `ByteSize` is does not matter
here, so it is a parameter.
-/

namespace Frrpc.Pb2js

open Lib

/-! ## JSON values -/

/-- A JSON value; a number is only its value, of whatever C++ type. -/
inductive Value where
  | null
  | number (n : Int)
  | string (s : Bytes)
  | array (values : List Value)
  | object (members : List (String × Value))

namespace Value

def addMember (value : Value) (name : String) (member : Value) : Option Value :=
  match value with
  | .object members => some (.object (members ++ [(name, member)]))
  | _ => none

def pushBack (value : Value) (element : Value) : Option Value :=
  match value with
  | .array values => some (.array (values ++ [element]))
  | _ => none

/-- `value[name]`. A missing member is a null value outside the object. -/
def index (value : Value) (name : String) : Option Value :=
  match value with
  | .object members => some ((members.lookup name).getD .null)
  | _ => none

/-- The value after a change of what `value[name]` refers to. -/
def setIndex (value : Value) (name : String) (member : Value) : Value :=
  match value with
  | .object members =>
    .object (members.replaceF fun (key, _) => if key = name then some (key, member) else none)
  | _ => value

end Value

/-! ## Messages -/

mutual

/-- A message, by the fields of its descriptor. -/
inductive Message where
  | mk (fields : List Field)

inductive Field where
  /-- A singular field without `HasField`. -/
  | unset (name : String)
  | set (name : String) (value : FieldValue)
  | repeated (name : String) (values : List FieldValue)

/-- A value of a field, by the field's type. -/
inductive FieldValue where
  | message (m : Message)
  | int32 (n : Int32)
  | uint32 (n : UInt32)
  | int64 (n : Int64)
  | uint64 (n : UInt64)
  | string (s : Bytes)
  | bytes (s : Bytes)
  /-- A type for which the `switch`es have no case. -/
  | other

end

def Message.fields : Message → List Field
  | .mk fields => fields

/-- What `Value(s.c_str())` gets of a string. -/
def cStr (s : Bytes) : Bytes := s.takeWhile (· ≠ 0)

variable (byteSize : Message → Nat)

mutual

def formatToJson (value : Value) : Message → Option Value
  | .mk fields => formatFields value fields

/-- The loop of `FormatToJson`. -/
def formatFields (value : Value) : List Field → Option Value
  | [] => some value
  | field :: fields => do
    let value ← formatField value field
    formatFields value fields

def formatField (value : Value) : Field → Option Value
  | .repeated name values =>
    if 0 < values.length then do
      let valueArray ← formatRepeatedField (.array []) values
      value.addMember name valueArray
    else some value
  | .unset _ => some value
  | .set name (.message tmpMsg) =>
    if byteSize tmpMsg ≠ 0 then do
      let member ← value.index name
      let member ← formatToJson member tmpMsg
      return value.setIndex name member
    else some value
  | .set name (.int32 n) => value.addMember name (.number n.toInt)
  | .set name (.uint32 n) => value.addMember name (.number n.toNat)
  | .set name (.int64 n) => value.addMember name (.number n.toInt)
  | .set name (.uint64 n) => value.addMember name (.number n.toNat)
  | .set name (.string s) => value.addMember name (.string (cStr s))
  | .set name (.bytes s) => value.addMember name (.string (cStr s))
  | .set _ .other => some value

def formatRepeatedField (value : Value) : List FieldValue → Option Value
  | [] => some value
  | fieldValue :: values => do
    let tmpValue ← formatElement fieldValue
    let value ← value.pushBack tmpValue
    formatRepeatedField value values

/-- The `switch` of `FormatRepeatedField`, on a default value. -/
def formatElement : FieldValue → Option Value
  | .message tmpMsg => if byteSize tmpMsg ≠ 0 then formatToJson .null tmpMsg else some .null
  | .int32 n => some (.number n.toInt)
  | .uint32 n => some (.number n.toNat)
  | .int64 n => some (.number n.toInt)
  | .uint64 n => some (.number n.toNat)
  | .string s => some (.string s)
  | .bytes s => some (.string s)
  | .other => some .null

end

/-- The value that is written out. -/
def pbToJson (pbMsg : Message) : Option Value := formatToJson byteSize (.object []) pbMsg

end Frrpc.Pb2js

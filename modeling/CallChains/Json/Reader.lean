import CallChains.Json.Token
/-!
Reading a JSON value from its tokens. The lists and objects that are still open
are kept on a stack, so the reader goes through the tokens once. A key that is
repeated keeps its first place and its last value.
-/

namespace CallChains.Json

inductive ReadError where
  | malformed
  | longNumber (digits : Nat)
  | tooDeep
  deriving DecidableEq, Repr

/-- How deep lists and objects may be nested. The depth is that of an
interpreter that reads a value inside a value by a call inside a call. The calls
around the reader count towards it too, and are taken to be equally many
everywhere; a writer, which would run into the same depth, is given no limit. -/
def nestingLimit : Nat := 988

inductive Pending where
  | list (reversed : List Json)
  | object (members : Members) (key : String)

mutual
def readValue (pending : List Pending) : List Token → Except ReadError Json
  | .scalar value :: rest => readAfter value pending rest
  | .text value :: rest => readAfter (.str value) pending rest
  | .longNumber digits :: _ => .error (.longNumber digits)
  | .leftBracket :: rest =>
      if nestingLimit ≤ pending.length then .error .tooDeep
      else
        match rest with
        | .rightBracket :: rest => readAfter (.arr []) pending rest
        | rest => readValue (.list [] :: pending) rest
  | .leftBrace :: rest =>
      if nestingLimit ≤ pending.length then .error .tooDeep
      else
        match rest with
        | .rightBrace :: rest => readAfter (.obj []) pending rest
        | .text key :: .colon :: rest =>
            readValue (.object [] key :: pending) rest
        | _ => .error .malformed
  | _ => .error .malformed

/-- Puts a complete value where it belongs and goes on with what is still
open. -/
def readAfter (value : Json) (pending : List Pending) :
    List Token → Except ReadError Json
  | [] => if pending.isEmpty then .ok value else .error .malformed
  | .comma :: rest =>
      match pending with
      | .list reversed :: outer =>
          readValue (.list (value :: reversed) :: outer) rest
      | .object members key :: outer =>
          match rest with
          | .text next :: .colon :: rest =>
              readValue (.object (members.put key value) next :: outer) rest
          | _ => .error .malformed
      | [] => .error .malformed
  | .rightBracket :: rest =>
      match pending with
      | .list reversed :: outer =>
          readAfter (.arr (value :: reversed).reverse) outer rest
      | _ => .error .malformed
  | .rightBrace :: rest =>
      match pending with
      | .object members key :: outer =>
          readAfter (.obj (members.put key value)) outer rest
      | _ => .error .malformed
  | _ => .error .malformed
end

def read (text : String) : Except ReadError Json :=
  readValue [] (Token.ofText text.toList)

def ofBytes (content : ByteArray) : Except ReadError Json :=
  match String.fromUTF8? content with
  | some text => read text
  | none => .error .malformed

end CallChains.Json

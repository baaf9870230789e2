import CallChains.Text.Blank
/-!
Method signatures: a declaring class and the part that an overriding method
shares, written as `<class: member>`.
-/

namespace CallChains

structure Signature where
  declaringClass : String
  subSignature : String
  deriving DecidableEq, Repr

namespace Signature

def isAngle (character : Char) : Bool := character = '<' || character = '>'

/-- The parts of what stands between the angle brackets. A class that is not
empty ends at the first colon; a blank follows, and then a member that is not
empty. No angle bracket occurs in either. -/
def ofBody? (body : List Char) : Option Signature :=
  let declaringClass := body.takeWhile (· ≠ ':')
  match body.dropWhile (· ≠ ':') with
  | _ :: blank :: member =>
      if declaringClass ≠ [] && Text.isBlank blank && member ≠ [] &&
          !declaringClass.any isAngle && !member.any isAngle then
        some {
          declaringClass := String.ofList (Text.strip declaringClass)
          subSignature := String.ofList (Text.strip member) }
      else none
  | _ => none

def ofText? (text : String) : Option Signature :=
  match Text.strip text.toList with
  | '<' :: rest =>
      if rest.getLast? = some '>' then ofBody? rest.dropLast else none
  | _ => none

def text (signature : Signature) : String :=
  "<" ++ signature.declaringClass ++ ": " ++ signature.subSignature ++ ">"

end Signature

end CallChains

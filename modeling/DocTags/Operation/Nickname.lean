import DocTags.Operation.Basic

/-!
Nicknames of operations: the path with every run of other characters than ASCII letters, digits and
colons replaced by one hyphen, then the method in lower case.
-/

namespace DocTags.Operation

/-- Whether a character of a path is kept in the nickname. -/
def isKept (c : Char) : Bool := c.isAlpha || c == ':' || Text.isDecimalDigit c

/-- Replaces runs of characters that are not kept; `inRun` says that the run under way already has
its hyphen. -/
def slugFrom (inRun : Bool) : List Char → List Char
  | [] => []
  | c :: rest =>
    if isKept c then c :: slugFrom false rest
    else if inRun then slugFrom true rest
    else '-' :: slugFrom true rest

/-- Replaces every run of characters that are not kept by one hyphen. -/
def slug (text : List Char) : List Char := slugFrom false text

/-- The path and the method; without them an operation cannot be documented. -/
def endpoint (operation : Operation) : Except Failure (String × String) :=
  match operation.path, operation.httpMethod with
  | some path, some method => .ok (path, method)
  | _, _ => .error (.ofCause .operationWithoutPath (some "path"))

/-- The nickname of the operation; the first character of the path is left out. -/
def nickname (operation : Operation) : Except Failure String :=
  match operation.endpoint with
  | .ok (path, method) =>
    .ok (String.ofList (slug (path.toList.drop 1) ++ Text.lower method.toList))
  | .error failure => .error failure

end DocTags.Operation

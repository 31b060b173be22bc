import DocTags.Operation.Document
import DocTags.Session

/-!
Actions on an operation in a session.
-/

namespace DocTags.Operation

inductive Action where
  | parseTag (tag : Except Failure Tag)
  | sort
  | appendFormat
  | nickname
  | summary
  | legacy
  | v2

def perform (load : Settings.Loaded) (operation : Operation) : Action → Reply Operation
  | .parseTag (.error failure) => .query operation (.error failure)
  | .parseTag (.ok tag) => .ofOutcome (operation.applyTag load tag)
  | .sort => .ofOutcome (.done operation.sortParameters)
  | .appendFormat => .ofOutcome (operation.appendFormat load)
  | .nickname => .query operation (operation.nickname.map .text)
  | .summary => .query operation (.ok (.textOrNull operation.effectiveSummary))
  | .legacy => .query operation (operation.legacy load)
  | .v2 => .query operation (operation.v2 load)

end DocTags.Operation

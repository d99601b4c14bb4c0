import EventTasks.Script.Evaluation
import EventTasks.Record

/-!
Records as scripts give them: every part is made before the record is used. A level must be
something that can be looked up.
-/
namespace EventTasks.Script

def recordOf (h : Host) (t : RecordTerm) : Act Record := do
  let name ← evaluate h t.name
  let level ← evaluate h t.level
  let path ← evaluate h t.path
  let line ← evaluate h t.line
  let message ← evaluate h t.message
  let args ← evaluateAll h t.args
  let function ← evaluate h t.function
  let created ← evaluate h t.created
  let _ ← h.numberOf level
  let args ← Record.argumentsOf h args
  pure { name, level, path, line, message, args, function, created, failing := t.failing }

end EventTasks.Script

import EventTasks.Subscript

/-!
The operations of an emitter object. Delivery goes through the listeners that the table holds when
it begins: what they do to the table meanwhile does not change who is called. Asking never opens a
channel. A session may put anything in place of the table; then the operations use it as they would
use a mapping of lists.
-/
namespace EventTasks.Emitter

def tableName : String := "_listeners"

def holder (h : Host) (self : Value) : Act Value := h.attr self tableName

def create (h : Host) (self : Value) : Act Value := do
  h.assign self tableName (← newTable)
  pure .nothing

/-- `_listeners[event].append(handler)`: opening a channel looks at the event object twice. -/
def subscribeIn (h : Host) (place : Nat) (event : Value) (r : Ref) : Act Unit := do
  let (_, topic, position) ← h.topicIn place event
  match position with
  | some _ => modifyTable place fun s => { s with table := s.table.subscribe topic r }
  | none => do
    let (number, topic, _) ← h.topicIn place event
    Host.growTable place event number (Table.subscribe topic r)

def on (h : Host) (self event handler : Value) : Act Value := do
  if !(← get).isCallable handler then throw (.listenerNotCallable (← h.describe event))
  match ← holder h self, handler with
  | .ref (.table p), .ref r => subscribeIn h p event r
  | found, _ => do
    let _ ← h.send (← h.item found event) "append" [handler]
  pure self

/-- The body of `EventEmitter.off`; closing a channel looks at the event object twice. -/
def unsubscribeIn (h : Host) (place : Nat) (event handler : Value) : Act Unit := do
  let (_, topic, position) ← h.topicIn place event
  let handlers := ((← get).tableAt place).listeners topic.key
  match position, handlers, handler with
  | none, _, _ | _, [], _ => pure ()
  | some _, _, .ref r => do
    modifyTable place fun s => { s with table := s.table.withdraw topic.key r }
    if (((← get).tableAt place).listeners topic.key).isEmpty then
      let (_, topic, position) ← h.topicIn place event
      position.forM fun i => Host.shrinkTable place i (Table.close topic.key)
  | some _, _, _ => pure ()

def dropLast (h : Host) (listeners handler : Value) : Nat → Act Unit
  | 0 => pure ()
  | index + 1 => do
    let found ← h.item listeners (.number (index : Nat))
    if found.isSame handler then h.dropItem listeners (.number (index : Nat))
    else dropLast h listeners handler index

def takeBack (h : Host) (self found event handler : Value) : Act Unit := do
  let listeners ← h.send found "get" [event]
  if ← h.truth listeners then
    dropLast h listeners handler (← h.size listeners)
    if !(← h.truth listeners) then
      let _ ← h.send (← holder h self) "pop" [event, .nothing]

def off (h : Host) (self event handler : Value) : Act Value := do
  match ← holder h self with
  | .ref (.table p) => unsubscribeIn h p event handler
  | found => takeBack h self found event handler
  pure self

/-- `_listeners.get(event, ())`, without a copy. -/
def handlersOf (h : Host) (self event : Value) : Act Value := do
  match ← holder h self with
  | .ref (.table p) =>
    let (_, topic, _) ← h.topicIn p event
    pure (.tuple 0 ((((← get).tableAt p).listeners topic.key).map .ref))
  | found => h.send found "get" [event, .tuple 0 []]

def emit (h : Host) (self event : Value) (args : List Value) : Act Value := do
  let handlers ← h.items (← handlersOf h self event)
  handlers.forM fun f => do
    let _ ← h.call f args []
  pure (.flag !handlers.isEmpty)

def listeners (h : Host) (self event : Value) : Act Value := do
  newList (← h.items (← handlersOf h self event))

def listenerCount (h : Host) (self event : Value) : Act Value := do
  pure (.number (← h.size (← handlersOf h self event) : Nat))

def eventNames (h : Host) (self : Value) : Act Value := do
  match ← holder h self with
  | .ref (.table p) => do newList ((← get).tableAt p).events
  | found => do newList (← h.items (← h.send found "keys" []))

def removeAllListeners (h : Host) (self event : Value) : Act Value := do
  let found ← holder h self
  if event.isNothing then h.empty found
  else
    let _ ← h.send found "pop" [event, .nothing]
  pure self

def describe (h : Host) (self : Value) : Act Value := do
  let count ← h.size (← holder h self)
  pure (.word s!"<ConformanceRunner(events={count})>")

/-- Carries out an emitter operation on matched arguments. -/
def perform (h : Host) (op : EmitterOp) (self : Value) (args extra : List Value) : Act Value :=
  match op, args with
  | .create, _ => create h self
  | .describe, _ => describe h self
  | .on, [event, handler] => on h self event handler
  | .off, [event, handler] => off h self event handler
  | .emit, [event] => emit h self event extra
  | .listeners, [event] => listeners h self event
  | .listenerCount, [event] => listenerCount h self event
  | .eventNames, _ => eventNames h self
  | .removeAllListeners, [event] => removeAllListeners h self event
  | _, _ => pure .nothing

end EventTasks.Emitter

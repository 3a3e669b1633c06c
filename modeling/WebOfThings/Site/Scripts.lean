import WebOfThings.Site.Factories

/-!
# Calling handlers

A handler is called by carrying out its acts in order (`Run.calls`). On a request the first act
that fails ends it, and is how the request ends; on any other occasion every act is carried out.

An act may itself lead to handlers being called, and nothing keeps handlers from calling one
another for ever. So the depth to which calls may be nested is given, and a run that goes deeper
has no result: `Run.calls depth` is how handlers are called at most `depth` deep.
-/

namespace WebOfThings.Run

/-- Carries an act out. -/
def perform (call : Call) (o : Occasion) (a : Act) : Run ActResult :=
  let subject := a.subject o
  let value := a.value o
  match a with
  | .emitEvent i _ _ => .outcome <$> emitEvent call i subject value
  | .emitProperty i _ _ => .outcome <$> emitProperty call i subject value
  | .emitChanges i _ onlyChanges => .outcome <$> emitChanges call i value.members onlyChanges
  | .request i _ _ => .outcome <$> request call i subject value.compact
  | .lookUp i _ => do pure (.lookedUp ((← exposed i).values.get? subject))
  | .handleAction i _ label acts => do
    updateExposed i (·.setActionHandler subject { label, acts })
    pure (.outcome .done)
  | .handleWrite i _ label acts => do
    updateExposed i (·.setWriteHandler subject { label, acts })
    pure (.outcome .done)
  | .destroy i => do
    updateExposed i (·.destroy)
    pure (.outcome .done)
  | .refuse e => pure (.outcome (.error e))
  | .invoke i _ _ => .outcome <$> invoke call i subject value
  | .write i _ _ => .outcome <$> write call i subject value
  | .receive i _ _ => do
    receive call i subject value.compact
    pure .silent
  | .read i _ => do
    let t ← consumed i
    let d ← description t.description
    pure (.value (t.read d subject))
  | .subscribe i _ label acts => .outcome <$> addHandler i .event subject { label, acts }
  | .observe i _ label acts => .outcome <$> addHandler i .property subject { label, acts }
  | .unsubscribe i _ => .found <$> removeHandler i .event subject
  | .unobserve i _ => .found <$> removeHandler i .property subject
  | .stop i => do
    updateConsumed i (·.stop)
    pure .silent
  | .dismiss i => do
    dismiss i
    pure .silent
  | .publish b _ _ => .outcome <$> publishValue call b subject value
  | .listen b _ label acts => .outcome <$> subscribe b subject (.handler { label, acts })
  | .unlisten b _ => .outcome <$> unsubscribe b subject
  | .disconnect b => do
    updateBus b (·.disconnect)
    pure (.outcome .done)

/-- Carries acts out in order. -/
def performAll (call : Call) (label : String) (o : Occasion) : List Act → Run Outcome
  | [] => pure .done
  | a :: rest => do
    let result ← perform call o a
    note (.acted label o a result)
    match o.isRefusable, result.error? with
    | true, some e => pure (.error e)
    | _, _ => performAll call label o rest

/-- How handlers are called, nested at most `depth` deep. -/
def calls : (depth : Nat) → Call
  | 0, _, _ => failure
  | depth + 1, handler, o => do
    note (.called handler.label o)
    performAll (calls depth) handler.label o handler.acts

end WebOfThings.Run

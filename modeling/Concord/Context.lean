/-!
# Scenario contexts

A check is made for a scenario, whose label stands in the journal, and within a
session once one has been opened.  Every scenario has a context of its own, which
is handed to each call.
-/

namespace Concord

/-- The scenario for which a call is made, and its session. -/
structure Context where
  /-- The label of the scenario. -/
  scenario : String
  /-- The session, once one is open. -/
  session : Option String
  deriving Repr, DecidableEq

namespace Context

/-- The context without label and session. -/
def blank : Context := ⟨"", none⟩

/-- The context of a scenario without a session. -/
def ofScenario (scenario : String) : Context := ⟨scenario, none⟩

/-- The context within a session, or within none. -/
def setSession (ctx : Context) (session : Option String) : Context :=
  { ctx with session := session }

def display (ctx : Context) : String :=
  match ctx.session with
  | some s => ctx.scenario ++ " (session " ++ s ++ ")"
  | none => ctx.scenario

/-- The label in front of a record of the journal. -/
def tag (ctx : Context) : String :=
  "[" ++ ctx.scenario ++ "] "

end Context

end Concord

import LineShell.Proofs.History
import LineShell.Session

/-!
What the requests of a line are for. To read the line its directory is listed, a builtin looks at what paths
name, a plan is launched, and the session shows what there is to show. Each of these parts makes requests of
one kind only, whatever the answers are.
-/

namespace LineShell

/-- What a session makes a request for. -/
inductive Purpose where
  | listing
  | looking
  | launching
  | showing
  | other
  deriving DecidableEq, Repr

/-- What a request is for. -/
def Request.purpose : Request → Purpose
  | .listDirectory _ => .listing
  | .canonicalize _ | .examine _ | .checkSearch _ => .looking
  | .makePipe | .openInput _ | .openOutput _ | .close _ | .spawn _ | .wait _ => .launching
  | .write _ _ | .flush _ => .showing
  | _ => .other

/-- The action makes requests for one purpose only. -/
abbrev Action.For {α : Type} (p : Purpose) (x : Action α) : Prop := x.Only fun r => r.purpose = p

open LineShell.Action

theorem for_request {r : Request} {p : Purpose} (h : r.purpose = p) : (request r).For p := only_request h

theorem purpose_ne_of_for {α : Type} {x : Action α} {p q : Purpose} {h : List Event} {a : α} (hx : x.For p) (hp : p ≠ q)
    (htrace : Trace x h a) : ∀ e ∈ h, e.request.purpose ≠ q := fun e he => hx.trace htrace e he ▸ hp

/-! ### Reading a line -/

theorem for_listingFor (directory : Path) (t : Token) : (Parse.listingFor directory t).For .listing := by
  unfold Parse.listingFor
  split
  · split
    · exact for_request rfl
    · exact only_pure _
  · exact only_pure _

theorem for_readIn (directory : Path) (limits : Limits) (d : Parse.Draft) (ts : List Token) :
    (Parse.readIn directory limits d ts).For .listing := by
  fun_induction Parse.readIn directory limits d ts with
  | case1 d => exact only_pure _
  | case2 d kind target ts ih => exact ih
  | case3 d t ts _ ih =>
    refine (for_listingFor _ _).bind fun listing => ?_
    split
    · exact only_pure _
    · exact ih _

theorem for_parseIn (line : String) (directory : Path) (limits : Limits) :
    (parseIn line directory limits).For .listing := by
  rw [parseIn]
  split
  · exact only_pure _
  · split
    · exact only_pure _
    · exact (for_readIn _ _ _ _).bind fun _ => only_pure _

/-! ### Builtins -/

theorem for_changeDirectory (directory : Path) (target : String) :
    (Builtin.changeDirectory directory target).For .looking := by
  refine (for_request rfl).bind fun r => ?_
  obtain e | canonical := r
  · exact only_pure _
  refine (for_request rfl).bind fun r => ?_
  obtain e | _ | _ | _ := r
  · exact only_pure _
  · exact only_pure _
  · refine (for_request rfl).bind fun r => ?_
    obtain e | ⟨⟩ := r <;> exact only_pure _
  · exact only_pure _

theorem for_invoke (b : Builtin) (directory : Path) (args : List String) :
    (b.invoke directory args).For .looking := by
  unfold Builtin.invoke
  split
  · cases b with
    | cd =>
      cases args with
      | nil => exact only_pure _
      | cons target args => exact for_changeDirectory directory target
    | pwd =>
      refine (for_request rfl).bind fun r => ?_
      obtain e | kind := r <;> exact only_pure _
    | which => cases args <;> exact only_pure _
    | exit => exact only_pure _
  · exact only_pure _

/-! ### Plans -/

theorem for_closeIfAny (d : Option Descriptor) : (Stage.closeIfAny d).For .launching := by
  cases d with
  | none => exact only_pure _
  | some d => exact for_request rfl

theorem for_openRedirect (directory : Path) (target : Option String) (kind : Redirect) :
    (Stage.openRedirect directory target kind).For .launching := by
  cases target with
  | none => exact only_pure _
  | some t =>
    cases kind <;>
      · refine (for_request rfl).bind fun r => ?_
        obtain e | d := r <;> exact only_pure _

theorem for_start (stage : Stage) (directory : Path) (ends : PipeEnds) :
    (stage.start directory ends).For .launching := by
  unfold Stage.start
  split
  · exact only_pure _
  refine (for_openRedirect _ _ _).bind fun r => ?_
  obtain e | input := r
  · exact only_pure _
  refine (for_openRedirect _ _ _).bind fun r => ?_
  obtain e | output := r
  · exact (for_closeIfAny _).bind fun _ => only_pure _
  refine (for_request rfl).bind fun r => ?_
  refine (for_closeIfAny _).bind fun _ => (for_closeIfAny _).bind fun _ => ?_
  obtain e | child := r <;> exact only_pure _

theorem for_launch (stage : Stage) (directory : Path) (ends : PipeEnds) :
    (stage.launch directory ends).For .launching :=
  (for_start _ _ _).bind fun _ => (for_closeIfAny _).bind fun _ => (for_closeIfAny _).bind fun _ => only_pure _

theorem for_await (launched : Except LaunchError Child) : (StageEnd.await launched).For .launching := by
  cases launched with
  | error e => exact only_pure _
  | ok child =>
    refine (for_request rfl).bind fun r => ?_
    obtain e | w := r <;> exact only_pure _

theorem for_run_plan (p : Plan) (directory : Path) : (p.run directory).For .launching := by
  unfold Plan.run
  split
  · exact (for_launch _ _ _).bind fun _ => (for_await _).bind fun _ => only_pure _
  · refine (for_request rfl).bind fun r => ?_
    obtain e | ⟨reader, writer⟩ := r
    · exact only_pure _
    · exact (for_launch _ _ _).bind fun _ => (for_launch _ _ _).bind fun _ => (for_await _).bind fun _ =>
        (for_await _).bind fun _ => only_pure _

/-! ### Showing -/

theorem for_put (channel : Channel) (bytes : Bytes) : (Session.put channel bytes).For .showing := by
  unfold Session.put
  split
  · exact only_pure _
  · exact for_request rfl

theorem for_complain (messages : List String) : (Session.complain messages).For .showing := by
  induction messages with
  | nil => exact only_pure _
  | cons message messages ih =>
    refine (for_put _ _).bind fun r => ?_
    obtain e | ⟨⟩ := r
    · exact only_pure _
    · exact ih

end LineShell

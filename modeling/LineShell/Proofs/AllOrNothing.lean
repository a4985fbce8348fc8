import LineShell.Builtin
import LineShell.Machine.System
import LineShell.Proofs.History
import LineShell.Text.Lines

/-!
Builtins do their work as a whole or not at all. However one is called and whatever its surroundings answer, it
succeeds without a message, or fails with one and leaves the working directory as it was. Only `cd` can move, namely to
a directory that it has found and may search, and only `exit` ends the session.
-/

namespace LineShell

/-- The builtin has done its work: there is no message. -/
structure BuiltinOutput.Succeeds (o : BuiltinOutput) : Prop where
  code : o.status.code = 0
  stderr : o.stderr = []

namespace Builtin

/-- The builtin has failed in a directory: there is a message, which ends in a newline, and nothing else. -/
structure Fails (directory : Path) (r : BuiltinOutput × Path) : Prop where
  code : r.1.status.code = 1
  stderr : r.1.stderr.getLast? = some Lines.newline
  stdout : r.1.stdout = []
  flow : r.1.flow = .continue
  directory : r.2 = directory

/-- Asked about a path, the surroundings tell that it leads to `canonical`, where there is a directory that may be
searched. They may change from one answer to the next. -/
def Admits {σ : Type} (system : System σ) (t : σ) (path canonical : Path) : Prop :=
  ∃ t₁ t₂ t₃, system.answer (.canonicalize path) t = (.ok canonical, t₁) ∧
    system.answer (.examine canonical) t₁ = (.ok .directory, t₂) ∧
    system.answer (.checkSearch canonical) t₂ = (.ok (), t₃)

/-- What comes of a builtin: a failure that changes nothing, or the one thing that the builtin is for. -/
inductive Ends (directory : Path) : Builtin → BuiltinOutput × Path → Prop
  | failed {b : Builtin} (message : String) : Ends directory b (.failure message, directory)
  | moved (canonical : Path) : Ends directory .cd (.success, canonical)
  | shown {b : Builtin} (text : String) : Ends directory b (.line text, directory)
  | left : Ends directory .exit (.exit, directory)

theorem fails_failure (directory : Path) (message : String) : Fails directory (.failure message, directory) where
  code := rfl
  stderr := by
    have hend : Utf8.encode (message ++ "\n") = Utf8.encode message ++ [Lines.newline] := by
      simp [Utf8.encode, Lines.newline, String.utf8EncodeChar]
    rw [BuiltinOutput.failure, hend, List.getLast?_concat]
  stdout := rfl
  flow := rfl
  directory := rfl

section
variable {σ : Type} {system : System σ} {b : Builtin} {directory : Path} {args : List String} {t : σ}
  {r : BuiltinOutput × Path}

theorem Ends.succeeds_or_fails (h : Ends directory b r) : r.1.Succeeds ∨ Fails directory r := by
  cases h with
  | failed message => exact .inr (fails_failure directory message)
  | moved canonical => exact .inl ⟨rfl, rfl⟩
  | shown text => exact .inl ⟨rfl, rfl⟩
  | left => exact .inl ⟨rfl, rfl⟩

theorem Ends.eq_cd (h : Ends directory b r) (hmoved : r.2 ≠ directory) : b = .cd := by
  cases h with
  | moved canonical => rfl
  | _ => exact absurd rfl hmoved

theorem Ends.eq_exit (h : Ends directory b r) (hexit : r.1.flow = .exit) : b = .exit := by
  cases h with
  | left => rfl
  | _ => cases hexit

theorem run_request_bind {α : Type} {request : Request} {answer : request.Answer} {u : σ}
    (h : system.answer request t = (answer, u)) (f : request.Answer → Action α) :
    (Action.request request >>= f).run system t = (f answer).run system u := by
  rw [Action.run_bind, Action.run_request, h]

variable (system directory t) in
/-- Moving succeeds just if the surroundings admit it, and then gives the canonical path and shows nothing. -/
theorem run_changeDirectory (target : String) :
    let r := ((changeDirectory directory target).run system t).1
    (∃ canonical, Admits system t (directory.join (.ofString target)) canonical ∧ r = (.success, canonical)) ∨
      (∀ canonical, ¬Admits system t (directory.join (.ofString target)) canonical) ∧
        ∃ message, r = (.failure message, directory) := by
  rcases hresolved : system.answer (.canonicalize (directory.join (.ofString target))) t with ⟨e | canonical, t₁⟩ <;>
    rw [changeDirectory, run_request_bind hresolved]
  · refine .inr ⟨?_, _, rfl⟩
    rintro _ ⟨_, _, _, hfound, -⟩
    cases hresolved.symm.trans hfound
  have hcanonical : ∀ {c : Path}, Admits system t (directory.join (.ofString target)) c →
      ∃ t₂ t₃, system.answer (.examine canonical) t₁ = (.ok .directory, t₂) ∧
        system.answer (.checkSearch canonical) t₂ = (.ok (), t₃) := by
    rintro c ⟨_, t₂, t₃, hfound, hrest⟩
    cases hresolved.symm.trans hfound
    exact ⟨t₂, t₃, hrest⟩
  rcases hexamined : system.answer (.examine canonical) t₁ with ⟨e | kind, t₂⟩ <;> rw [run_request_bind hexamined]
  · refine .inr ⟨fun c hadmits => ?_, _, rfl⟩
    obtain ⟨_, _, hdirectory, -⟩ := hcanonical hadmits
    cases hexamined.symm.trans hdirectory
  cases kind with
  | directory =>
    rcases hsearched : system.answer (.checkSearch canonical) t₂ with ⟨e | ⟨⟩, t₃⟩ <;> rw [run_request_bind hsearched]
    · refine .inr ⟨fun c hadmits => ?_, _, rfl⟩
      obtain ⟨_, _, hdirectory, hallowed⟩ := hcanonical hadmits
      cases hexamined.symm.trans hdirectory
      cases hsearched.symm.trans hallowed
    · exact .inl ⟨canonical, ⟨t₁, t₂, t₃, hresolved, hexamined, hsearched⟩, rfl⟩
  | _ =>
    refine .inr ⟨fun c hadmits => ?_, _, rfl⟩
    obtain ⟨_, _, hdirectory, -⟩ := hcanonical hadmits
    cases hexamined.symm.trans hdirectory

theorem Admits.unique {path canonical other : Path} (h : Admits system t path canonical)
    (h' : Admits system t path other) : other = canonical := by
  obtain ⟨_, _, _, hfound, -⟩ := h
  obtain ⟨_, _, _, hfound', -⟩ := h'
  cases hfound.symm.trans hfound'
  rfl

variable (system directory t) in
theorem succeeds_iff_admits (target : String) :
    let r := ((changeDirectory directory target).run system t).1
    (r.1.Succeeds ↔ ∃ canonical, Admits system t (directory.join (.ofString target)) canonical) ∧
      ∀ canonical, Admits system t (directory.join (.ofString target)) canonical → r = (.success, canonical) := by
  intro r
  rcases run_changeDirectory system directory t target with
    ⟨canonical, hadmits, hrun⟩ | ⟨hbarred, message, hrun⟩
  · have hr : r = (.success, canonical) := hrun
    rw [hr]
    exact ⟨⟨fun _ => ⟨canonical, hadmits⟩, fun _ => ⟨rfl, rfl⟩⟩, fun other hother => by rw [hadmits.unique hother]⟩
  · have hr : r = (.failure message, directory) := hrun
    rw [hr]
    refine ⟨⟨fun hsucceeds => ?_, fun ⟨canonical, hadmits⟩ => absurd hadmits (hbarred canonical)⟩,
      fun canonical hadmits => absurd hadmits (hbarred canonical)⟩
    cases hsucceeds.code

/-- What comes of a builtin, whatever the number of its arguments. -/
theorem ends_execute : Ends directory b ((b.execute directory args).run system t).1 := by
  cases b with
  | cd =>
    obtain _ | ⟨target, args⟩ := args
    · exact .failed _
    · rcases run_changeDirectory system directory t target with
        ⟨canonical, -, hrun⟩ | ⟨-, message, hrun⟩
      · exact hrun ▸ .moved canonical
      · exact hrun ▸ .failed message
  | pwd =>
    rcases hexamined : system.answer (.examine directory) t with ⟨e | kind, u⟩ <;>
      rw [execute, showDirectory, run_request_bind hexamined]
    · exact .failed _
    · exact .shown _
  | which =>
    obtain _ | ⟨name, args⟩ := args
    · exact .failed _
    · exact .shown _
  | exit => exact .left

theorem invoke_eq (h : b.arity.accepts args.length = true) : b.invoke directory args = b.execute directory args :=
  if_pos h

theorem ends_invoke : Ends directory b ((b.invoke directory args).run system t).1 := by
  cases h : b.arity.accepts args.length with
  | true => exact invoke_eq h ▸ ends_execute
  | false =>
    rw [invoke, h]
    exact .failed _

end

/-- A builtin succeeds without a message, or fails with one and changes nothing. If it does not take so many arguments
it fails, and nothing is asked for. A `cd` succeeds just if the target leads to a directory that may be searched, and
moves there. -/
theorem run_all_or_nothing {σ : Type} (system : System σ) (b : Builtin) (directory : Path) (args : List String) (t : σ) :
    (∀ x, x = b.invoke directory args ∨ x = b.execute directory args →
      let r := (x.run system t).1
      (r.1.Succeeds ∨ Fails directory r) ∧ (r.2 ≠ directory → b = .cd) ∧ (r.1.flow = .exit → b = .exit) ∧
        ∀ target, b = .cd → args = [target] →
          (r.1.Succeeds ↔ ∃ canonical, Admits system t (directory.join (.ofString target)) canonical) ∧
          ∀ canonical, Admits system t (directory.join (.ofString target)) canonical →
            r.2 = canonical ∧ r.1.stdout = [] ∧ r.1.stderr = []) ∧
    (b.arity.accepts args.length = false →
      (b.invoke directory args).run system t =
          ((.failure (b.name ++ ": wrong number of arguments"), directory), t) ∧
        (b.invoke directory args).history system t = []) := by
  refine ⟨fun x hx => ?_, fun hcount => ?_⟩
  · have hends : Ends directory b (x.run system t).1 := by
      rcases hx with rfl | rfl
      · exact ends_invoke
      · exact ends_execute
    refine ⟨hends.succeeds_or_fails, hends.eq_cd, hends.eq_exit, ?_⟩
    rintro target rfl rfl
    -- Both ways to call it are the same for one argument.
    have hx : x = changeDirectory directory target := by
      rcases hx with rfl | rfl <;> rfl
    subst hx
    obtain ⟨hiff, hmoved⟩ := succeeds_iff_admits system directory t target
    refine ⟨hiff, fun canonical hadmits => ?_⟩
    rw [hmoved canonical hadmits]
    exact ⟨rfl, rfl, rfl⟩
  · have hrefused : b.invoke directory args =
        pure (.failure (b.name ++ ": wrong number of arguments"), directory) := by
      rw [invoke, hcount]
      rfl
    rw [hrefused]
    exact ⟨rfl, rfl⟩

/-- Surroundings where every path is the canonical one of a directory. A `pwd` with an argument fails. -/
theorem run_all_or_nothing_entered :
    let system : System Machine := ⟨fun r m => match r with
      | .canonicalize path => (.ok path, m)
      | .examine _ => (.ok .directory, m)
      | .checkSearch _ => (.ok (), m)
      | r => Machine.system.answer r m⟩
    let m : Machine := { tree := {} }
    let entered := (Builtin.cd.invoke (.ofString "/tmp") ["a"]).run system m
    let refused := (Builtin.pwd.invoke (.ofString "/tmp") ["-P"]).run system m
    Admits system m (.ofString "/tmp/a") (.ofString "/tmp/a") ∧ entered.1.1.Succeeds ∧
      entered.1.2 = .ofString "/tmp/a" ∧ Builtin.pwd.arity.accepts ["-P"].length = false ∧
      Fails (.ofString "/tmp") refused.1 ∧
      refused = ((.failure "pwd: wrong number of arguments", .ofString "/tmp"), m) := by
  intro system m entered refused
  have hadmits : Admits system m (.ofString "/tmp/a") (.ofString "/tmp/a") := ⟨m, m, m, rfl, rfl, rfl⟩
  have hcount : Builtin.pwd.arity.accepts ["-P"].length = false := rfl
  obtain ⟨hcd, -⟩ := run_all_or_nothing system .cd (.ofString "/tmp") ["a"] m
  obtain ⟨-, -, -, htarget⟩ := hcd _ (.inl rfl)
  obtain ⟨hsucceeds, hmoved⟩ := htarget "a" rfl rfl
  obtain ⟨hpwd, hwrong⟩ := run_all_or_nothing system .pwd (.ofString "/tmp") ["-P"] m
  obtain ⟨hends, -⟩ := hpwd _ (.inl rfl)
  have hrefused : refused = ((.failure "pwd: wrong number of arguments", .ofString "/tmp"), m) := (hwrong hcount).1
  have hfails : Fails (.ofString "/tmp") refused.1 := by
    refine hends.resolve_left fun hdone => ?_
    cases (congrArg (·.1.1.status.code) hrefused).symm.trans hdone.code
  exact ⟨hadmits, hsucceeds.mpr ⟨_, hadmits⟩, (hmoved _ hadmits).1, hcount, hfails, hrefused⟩

end Builtin
end LineShell

import FactoryTest.Upload.Transfer
import Mathlib.Data.List.Nodup

/-!
# The requests of the upload service, along every run

What the history of a run says about each request, against what the slot holds.

**Ledger** (`Ledger`). The pending request is new: neither written nor finished. The worker's
request is unfinished, and unwritten unless a result is awaited. Everything written or finished
was accepted before. Moves keep the ledger (`Ledger.step`), so it holds along every run, with
`stop` and `start` at any point and with any answers of the devices (`run_ledger`).
-/

namespace FactoryTest.Upload

variable {cJSON : CJsonLibrary}

/-! ## Requests in a history -/

/-- `queue` accepted the request. -/
def Accepted (h : List Obs) (q : Request) : Prop := ∃ payload, .accepted payload q ∈ h

/-- The request's result line was written, wholly or in part. -/
def Written (h : List Obs) (q : Request) : Prop :=
  ∃ session sent success, .wrote session (.result q) sent success ∈ h

/-- The request was published as finished. -/
def Finished (h : List Obs) (q : Request) : Prop := ∃ state, .finished (some q) state ∈ h

/-- The request whose result line the observation shows. -/
def Obs.result : Obs → Option Request
  | .wrote _ (.result q) _ _ => some q
  | _ => none

/-- The request that the observation shows as finished. -/
def Obs.finish : Obs → Option Request
  | .finished request _ => request
  | _ => none

theorem mem_results {h : List Obs} {q : Request} : q ∈ h.filterMap Obs.result ↔ Written h q := by
  rw [List.mem_filterMap]
  constructor
  · rintro ⟨o, ho, hq⟩
    cases o with
    | wrote session message sent success =>
      cases message with
      | ack text => cases hq
      | result q' =>
        obtain rfl := Option.some.inj hq
        exact ⟨session, sent, success, ho⟩
    | _ => cases hq
  · rintro ⟨session, sent, success, ho⟩
    exact ⟨_, ho, rfl⟩

theorem mem_finishes {h : List Obs} {q : Request} : q ∈ h.filterMap Obs.finish ↔ Finished h q := by
  rw [List.mem_filterMap]
  constructor
  · rintro ⟨o, ho, hq⟩
    cases o with
    | finished request state =>
      replace hq : request = some q := hq
      exact ⟨state, hq ▸ ho⟩
    | _ => cases hq
  · rintro ⟨state, ho⟩
    exact ⟨_, ho, rfl⟩

section

variable {h os : List Obs} {o : Obs} {q : Request}

@[simp] theorem accepted_nil : ¬ Accepted [] q := by simp [Accepted]

@[simp] theorem accepted_cons :
    Accepted (o :: os) q ↔ (∃ payload, o = .accepted payload q) ∨ Accepted os q := by
  simp only [Accepted, List.mem_cons, exists_or, eq_comm]

@[simp] theorem accepted_append : Accepted (h ++ os) q ↔ Accepted h q ∨ Accepted os q := by
  simp [Accepted, exists_or]

@[simp] theorem written_nil : ¬ Written [] q := by simp [Written]

@[simp] theorem written_cons :
    Written (o :: os) q ↔
      (∃ session sent success, o = .wrote session (.result q) sent success) ∨ Written os q := by
  simp only [Written, List.mem_cons, exists_or, eq_comm]

@[simp] theorem written_append : Written (h ++ os) q ↔ Written h q ∨ Written os q := by
  simp [Written, exists_or]

@[simp] theorem finished_nil : ¬ Finished [] q := by simp [Finished]

@[simp] theorem finished_cons :
    Finished (o :: os) q ↔ (∃ state, o = .finished (some q) state) ∨ Finished os q := by
  simp only [Finished, List.mem_cons, exists_or, eq_comm]

@[simp] theorem finished_append : Finished (h ++ os) q ↔ Finished h q ∨ Finished os q := by
  simp [Finished, exists_or]

end

/-! ## The ledger -/

/-- The slot agrees with the history. -/
structure Ledger (v : Slot) (h : List Obs) : Prop where
  stripped : ∀ payload q, .accepted payload q ∈ h →
    q.payload = strip_line_breaks payload ∧ admissible q.payload = true
  numbered : ∀ q, Accepted h q → q.id < v.accepted
  written : ∀ q, Written h q → Accepted h q
  finished : ∀ q, Finished h q → Accepted h q
  pending : ∀ q, v.pending = some q →
    Accepted h q ∧ ¬ Finished h q ∧ ¬ Written h q ∧ v.active ≠ some q
  active : ∀ q, v.active = some q →
    Accepted h q ∧ ¬ Finished h q ∧ (v.waiting = false → ¬ Written h q)
  unconnected : v.session = none → v.active = none ∧ v.waiting = false

theorem Ledger.init : Ledger {} [] := by
  constructor <;> simp

/-- Every move keeps the ledger. -/
theorem Ledger.step {rejects exits : Bool} {v v' : Slot} {h os : List Obs} (hl : Ledger v h)
    (ht : Transfer cJSON rejects exits v os v') : Ledger v' (h ++ os) := by
  obtain ⟨hstr, hnum, hwr, hfin, hp, ha, hun⟩ := hl
  cases ht with
  | idle => simpa using ⟨hstr, hnum, hwr, hfin, hp, ha, hun⟩
  | heard line => constructor <;> simpa
  | accept payload free inactive fits =>
    constructor <;> simp <;> grind
  | drop unconnected held => constructor <;> simp <;> grind
  | connect unconnected => constructor <;> simp <;> grind
  | lose handshaked connected =>
    cases v.active.isSome || v.waiting <;> constructor <;> simp <;> grind
  | take free connected => constructor <;> simp <;> grind
  | greet line text connected valid => constructor <;> simp <;> grind
  | reject line written connected rejected acks =>
    unfold failed
    rcases acks with rfl | ⟨text, sent, rfl⟩ <;> cases v.active.isSome <;>
      constructor <;> simp <;> grind
  | answer line state connected waits verdict => constructor <;> simp <;> grind
  | send q connected held unsent greeted => constructor <;> simp <;> grind
  | sendFailed q sent connected held unsent greeted => constructor <;> simp <;> grind
  | timeout busy => constructor <;> simp <;> grind
  | leave left => cases v.session.isSome <;> constructor <;> simp <;> grind

/-- A move writes at most one result line, that of the worker's request, on the current session
and while no result is awaited. -/
theorem Transfer.results {rejects exits : Bool} {v v' : Slot} {os : List Obs}
    (ht : Transfer cJSON rejects exits v os v') :
    os.filterMap Obs.result = [] ∨ ∃ q sent success rest,
      os = .wrote v.session (.result q) sent success :: rest ∧ rest.filterMap Obs.result = [] ∧
      v.session.isSome = true ∧ v.active = some q ∧ v.waiting = false ∧ v.handshaked = true := by
  cases ht with
  | send q connected held unsent greeted =>
    exact .inr ⟨q, _, _, _, rfl, rfl, connected, held, unsent, greeted⟩
  | sendFailed q sent connected held unsent greeted =>
    exact .inr ⟨q, _, _, _, rfl, rfl, connected, held, unsent, greeted⟩
  | lose handshaked connected => left; cases v.active.isSome || v.waiting <;> rfl
  | reject line written connected rejected acks =>
    left
    unfold failed
    rcases acks with rfl | ⟨text, sent, rfl⟩ <;> cases v.active.isSome <;> rfl
  | leave left => left; cases v.session.isSome <;> rfl
  | _ => exact .inl rfl

/-- A move finishes at most one request, the pending one or the worker's. -/
theorem Transfer.finishes {rejects exits : Bool} {v v' : Slot} {os : List Obs}
    (ht : Transfer cJSON rejects exits v os v') :
    os.filterMap Obs.finish = [] ∨
      os.filterMap Obs.finish = v.pending.toList ∨ os.filterMap Obs.finish = v.active.toList := by
  cases ht with
  | drop unconnected held =>
    right; left
    cases v.pending <;> rfl
  | lose handshaked connected =>
    cases v.active.isSome || v.waiting
    · exact .inl rfl
    · right; right; cases v.active <;> rfl
  | reject line written connected rejected acks =>
    unfold failed
    rcases acks with rfl | ⟨text, sent, rfl⟩ <;> cases v.active <;>
      first | exact .inl rfl | exact .inr (.inr rfl)
  | answer line state connected waits verdict => right; right; cases v.active <;> rfl
  | sendFailed q sent connected held unsent greeted => right; right; cases v.active <;> rfl
  | timeout busy => right; right; cases v.active <;> rfl
  | leave left => left; cases v.session.isSome <;> rfl
  | _ => exact .inl rfl

/-- No result line is written twice. -/
theorem Ledger.results_nodup {rejects exits : Bool} {v v' : Slot} {h os : List Obs}
    (hl : Ledger v h) (ht : Transfer cJSON rejects exits v os v')
    (hh : (h.filterMap Obs.result).Nodup) : ((h ++ os).filterMap Obs.result).Nodup := by
  rw [List.filterMap_append]
  rcases ht.results with hos | ⟨q, sent, success, rest, rfl, hrest, -, hactive, hwaiting, -⟩
  · simpa [hos] using hh
  · show (h.filterMap Obs.result ++ q :: rest.filterMap Obs.result).Nodup
    rw [hrest]
    refine List.nodup_append.2 ⟨hh, List.nodup_singleton q, ?_⟩
    rintro a ha b hb rfl
    obtain rfl := List.mem_singleton.1 hb
    exact (hl.active _ hactive).2.2 hwaiting (mem_results.1 ha)

/-- No request is finished twice. -/
theorem Ledger.finishes_nodup {rejects exits : Bool} {v v' : Slot} {h os : List Obs}
    (hl : Ledger v h) (ht : Transfer cJSON rejects exits v os v')
    (hh : (h.filterMap Obs.finish).Nodup) : ((h ++ os).filterMap Obs.finish).Nodup := by
  rw [List.filterMap_append]
  have hnew : ∀ r : Option Request, (∀ q, r = some q → ¬ Finished h q) →
      (h.filterMap Obs.finish ++ r.toList).Nodup := by
    intro r hr
    refine List.nodup_append.2 ⟨hh, by cases r <;> simp, ?_⟩
    rintro a ha b hb rfl
    exact hr a (Option.mem_toList.1 hb) (mem_finishes.1 ha)
  rcases ht.finishes with hos | hos | hos <;> rw [hos]
  · rwa [List.append_nil]
  · exact hnew _ fun q hq => (hl.pending q hq).2.1
  · exact hnew _ fun q hq => (hl.active q hq).2.1

/-! ## Sessions and their handshakes -/

/-- On session `k`, after its opening, a handshake line with property `P` was received and its
acknowledgement written completely. -/
def Greeted (P : List Char → Prop) (h : List Obs) (k : ℕ) : Prop :=
  ∃ before line text after, P line ∧ .opened k ∈ before ∧
    h = before ++ .received (some k) line :: .wrote (some k) (.ack text) text.length true :: after

theorem Greeted.append {P : List Char → Prop} {h : List Obs} {k : ℕ} (hg : Greeted P h k)
    (os : List Obs) : Greeted P (h ++ os) k := by
  obtain ⟨before, line, text, after, hline, hopened, rfl⟩ := hg
  exact ⟨before, line, text, after ++ os, hline, hopened, by simp⟩

theorem Greeted.mono {P Q : List Char → Prop} (hPQ : ∀ line, P line → Q line) {h : List Obs}
    {k : ℕ} (hg : Greeted P h k) : Greeted Q h k := by
  obtain ⟨before, line, text, after, hline, hopened, rfl⟩ := hg
  exact ⟨before, line, text, after, hPQ line hline, hopened, rfl⟩

/-- The current session is open, and if `handshaked` is set it was greeted. -/
structure Sessions (cJSON : CJsonLibrary) (v : Slot) (h : List Obs) : Prop where
  opened : ∀ k, .opened k ∈ h → k < v.sessions
  closed : ∀ k, .closed (some k) ∈ h → k < v.sessions
  current : ∀ k, v.session = some k → .opened k ∈ h ∧ .closed (some k) ∉ h
  greeted : ∀ k, v.session = some k → v.handshaked = true → Greeted (ValidHandshake cJSON) h k

theorem Sessions.init : Sessions cJSON {} [] := by
  constructor <;> simp

/-- A move that neither opens nor closes a session and greets nobody keeps the sessions. -/
theorem Sessions.stay {v v' : Slot} {h os : List Obs} (hs : Sessions cJSON v h)
    (hsession : v'.session = v.session) (hsessions : v'.sessions = v.sessions)
    (hhandshaked : v'.handshaked = v.handshaked) (hopened : ∀ k, .opened k ∉ os)
    (hclosed : ∀ k, .closed k ∉ os) : Sessions cJSON v' (h ++ os) where
  opened k hk := by
    rw [hsessions]
    exact hs.opened k ((List.mem_append.1 hk).resolve_right (hopened k))
  closed k hk := by
    rw [hsessions]
    exact hs.closed k ((List.mem_append.1 hk).resolve_right (hclosed _))
  current k hk := by
    rw [hsession] at hk
    obtain ⟨ho, hc⟩ := hs.current k hk
    exact ⟨List.mem_append_left _ ho, by simp [hc, hclosed]⟩
  greeted k hk hg := (hs.greeted k (hsession ▸ hk) (hhandshaked ▸ hg)).append os

/-- Losing the session keeps the sessions. -/
theorem Sessions.lose {v v' : Slot} {h os : List Obs} (hs : Sessions cJSON v h)
    (hsession : v'.session = none) (hsessions : v'.sessions = v.sessions)
    (hopened : ∀ k, .opened k ∉ os) (hclosed : ∀ k, .closed (some k) ∈ os → v.session = some k) :
    Sessions cJSON v' (h ++ os) where
  opened k hk := by
    rw [hsessions]
    exact hs.opened k ((List.mem_append.1 hk).resolve_right (hopened k))
  closed k hk := by
    rw [hsessions]
    rcases List.mem_append.1 hk with hk | hk
    · exact hs.closed k hk
    · exact hs.opened k (hs.current k (hclosed k hk)).1
  current k hk := by rw [hsession] at hk; cases hk
  greeted k hk := by rw [hsession] at hk; cases hk

/-- Every move keeps the sessions. -/
theorem Sessions.step {rejects exits : Bool} {v v' : Slot} {h os : List Obs}
    (hs : Sessions cJSON v h) (ht : Transfer cJSON rejects exits v os v') :
    Sessions cJSON v' (h ++ os) := by
  cases ht with
  | connect unconnected =>
    refine ⟨?_, ?_, ?_, nofun⟩
    · intro k hk
      rcases List.mem_append.1 hk with hk | hk
      · exact (hs.opened k hk).trans (Nat.lt_succ_self _)
      · obtain rfl : k = v.sessions := by simpa using hk
        exact Nat.lt_succ_self _
    · intro k hk
      exact (hs.closed k (by simpa using hk)).trans (Nat.lt_succ_self _)
    · intro k hk
      obtain rfl : v.sessions = k := by simpa using hk
      exact ⟨by simp, fun hc => (hs.closed _ (by simpa using hc)).false⟩
  | lose handshaked connected =>
    refine hs.lose rfl rfl ?_ ?_ <;> cases v.active.isSome || v.waiting <;> simp [eq_comm]
  | leave left =>
    refine hs.lose rfl rfl ?_ ?_ <;> cases v.session.isSome <;> simp [eq_comm]
  | greet line text connected valid =>
    have hstay : Sessions cJSON v (h ++ [.received v.session line,
        .wrote v.session (.ack text) text.length true]) :=
      hs.stay rfl rfl rfl (by simp) (by simp)
    refine ⟨hstay.opened, hstay.closed, hstay.current, fun k hk _ => ?_⟩
    replace hk : v.session = some k := hk
    exact ⟨h, line, text, [], valid, (hs.current k hk).1, by rw [hk]⟩
  | reject line written connected rejected acks =>
    refine hs.stay rfl rfl rfl ?_ ?_ <;> unfold failed <;>
      rcases acks with rfl | ⟨text, sent, rfl⟩ <;> cases v.active.isSome <;> simp
  | _ => exact hs.stay rfl rfl rfl (by simp) (by simp)

/-! ## Along every run -/

/-- Along every run the worker's locals fit its place, and the slot agrees with the history. -/
structure Sound (cJSON : CJsonLibrary) (c : Config Impl Obs) : Prop where
  wf : c.state.Wf
  ledger : Ledger c.state.slot c.history
  sessions : Sessions cJSON c.state.slot c.history
  written_once : (c.history.filterMap Obs.result).Nodup
  finished_once : (c.history.filterMap Obs.finish).Nodup

theorem sound_next {c : Config Impl Obs} (hc : Sound cJSON c) (e : Event) :
    Sound cJSON ((service cJSON).next c e) := by
  obtain ⟨ht, hwf⟩ : Refines cJSON _ _ _ _ := step_transfer hc.wf e
  exact ⟨hwf, hc.ledger.step ht, hc.sessions.step ht, hc.ledger.results_nodup ht hc.written_once,
    hc.ledger.finishes_nodup ht hc.finished_once⟩

theorem sound_init (config : FactoryUploadConfig) : Sound cJSON (Impl.init config) where
  wf _ hw := nomatch hw
  ledger := Ledger.init
  sessions := Sessions.init
  written_once := List.nodup_nil
  finished_once := List.nodup_nil

theorem run_sound (config : FactoryUploadConfig) (es : List Event) :
    Sound cJSON ((service cJSON).run (Impl.init config) es) :=
  Machine.run_invariant (I := Sound cJSON) (fun _ e hc => sound_next hc e) (sound_init config) es

end FactoryTest.Upload

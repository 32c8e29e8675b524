import FactoryTest.Lib.History
import FactoryTest.Upload.Sending

/-!
# Success is sound, and the slot is exact

What is published of a request is right as long as two steps do not happen:

* `WaitLeftSet`: a handshake is refused while the worker awaits the answer to its request. The
  request fails and is dropped, but `waiting_result_ack` stays set, so the next `ACK_RESULT`
  line, or the timeout, finishes whatever the worker holds by then.
* `RequestLeftHeld`: `run` returns while the worker holds a request. The request is gone, but
  `request_active` stays set, so `queue` refuses every later payload.

Along every run without the first, whatever is published as succeeded was sent and acknowledged
(`success_sound`). Along every run without either, `request_active` is exact (`slot_exact`).
`wait_left_set_succeeds` and `request_left_held_leaks` are runs in which the two steps do the
damage.
-/

namespace FactoryTest.Upload

variable {cJSON : CJsonLibrary}

/-! ## The two steps -/

/-- A handshake is refused while the worker awaits the answer to its request. -/
def WaitLeftSet (cJSON : CJsonLibrary) (c : Config Impl Obs) (e : Event) : Prop :=
  rejects_handshake cJSON c.state e = true ∧ c.state.slot.active.isSome = true ∧
    c.state.slot.waiting = true

/-- `run` returns while the worker holds a request. -/
def RequestLeftHeld (c : Config Impl Obs) (e : Event) : Prop :=
  returns c.state e = true ∧ c.state.slot.active.isSome = true

instance (c : Config Impl Obs) (e : Event) : Decidable (WaitLeftSet cJSON c e) :=
  inferInstanceAs (Decidable (_ ∧ _ ∧ _))

instance (c : Config Impl Obs) (e : Event) : Decidable (RequestLeftHeld c e) :=
  inferInstanceAs (Decidable (_ ∧ _))

/-! ## Success -/

/-- What must precede the publication of a success: the request was accepted and not finished
before, its result line was written completely on the session `k`, which is still open, and
after that, with no other result line between, a saved `ACK_RESULT` line was received on it. -/
def SuccessSound (cJSON : CJsonLibrary) (h : List Obs) : Obs → Prop
  | .finished request .SUCCEEDED =>
    ∃ q k before between line, request = some q ∧ Accepted h q ∧ ¬ Finished h q ∧
      h = before ++ .wrote (some k) (.result q) (result_line q.payload).length true ::
        (between ++ [.received (some k) line]) ∧
      .opened k ∈ before ∧ .closed (some k) ∉ h ∧ between.filterMap Obs.result = [] ∧
      SavedAck cJSON line
  | _ => True

/-- While a result is awaited, the worker holds the request whose result line was the last one
written, on the current session. -/
def Awaiting (v : Slot) (h : List Obs) : Prop :=
  v.waiting = true → ∃ q k before between, v.active = some q ∧ v.session = some k ∧
    h = before ++ .wrote (some k) (.result q) (result_line q.payload).length true :: between ∧
    .opened k ∈ before ∧ between.filterMap Obs.result = []

/-- A move that writes no result line and keeps the worker's request keeps what is awaited. -/
theorem Awaiting.stay {v v' : Slot} {h os : List Obs} (ha : Awaiting v h)
    (hwaiting : v'.waiting = true → v.waiting = true) (hactive : v'.active = v.active)
    (hsession : v'.session = v.session) (hos : os.filterMap Obs.result = []) :
    Awaiting v' (h ++ os) := by
  intro hw
  obtain ⟨q, k, before, between, hq, hk, rfl, hopened, hbetween⟩ := ha (hwaiting hw)
  exact ⟨q, k, before, between ++ os, hactive.trans hq, hsession.trans hk, by simp, hopened,
    by rw [List.filterMap_append, hbetween, hos, List.append_nil]⟩

theorem Awaiting.of_not_waiting {v : Slot} {h : List Obs} (hw : v.waiting = false) :
    Awaiting v h := by
  intro hw'
  rw [hw] at hw'
  cases hw'

/-- Every move but the refusal of a handshake in the wrong moment keeps what is awaited. -/
theorem Awaiting.step {rejects exits : Bool} {v v' : Slot} {h os : List Obs}
    (ha : Awaiting v h) (hl : Ledger v h) (hs : Sessions cJSON v h)
    (ht : Transfer cJSON rejects exits v os v')
    (hguard : ¬ (rejects = true ∧ v.active.isSome = true ∧ v.waiting = true)) :
    Awaiting v' (h ++ os) := by
  cases ht with
  | idle => exact ha.stay id rfl rfl rfl
  | heard line => exact ha.stay id rfl rfl rfl
  | accept payload free inactive fits => exact ha.stay id rfl rfl rfl
  | drop unconnected held =>
    exact .of_not_waiting (hl.unconnected unconnected).2
  | connect unconnected => exact .of_not_waiting rfl
  | lose handshaked connected => exact .of_not_waiting rfl
  | take free connected =>
    refine .of_not_waiting (Bool.eq_false_iff.2 fun hw => ?_)
    obtain ⟨q, -, -, -, hq, -⟩ := ha hw
    exact absurd (free.symm.trans hq) nofun
  | greet line text connected valid => exact ha.stay id rfl rfl rfl
  | reject line written connected rejected acks =>
    refine .of_not_waiting (Bool.eq_false_iff.2 fun hw => ?_)
    obtain ⟨q, -, -, -, hq, -⟩ := ha hw
    exact hguard ⟨rejected, by rw [hq]; rfl, hw⟩
  | answer line state connected waits verdict => exact .of_not_waiting rfl
  | send q connected held unsent greeted =>
    obtain ⟨k, hk⟩ := Option.isSome_iff_exists.1 connected
    exact fun _ => ⟨q, k, h, [], held, hk, by rw [hk], (hs.current k hk).1, rfl⟩
  | sendFailed q sent connected held unsent greeted => exact .of_not_waiting unsent
  | timeout busy => exact .of_not_waiting rfl
  | leave left => exact .of_not_waiting rfl

/-- A move publishes no success but the one that a saved answer to the awaited result gives. -/
theorem Awaiting.justified {rejects exits : Bool} {v v' : Slot} {h os : List Obs}
    (ha : Awaiting v h) (hl : Ledger v h) (hs : Sessions cJSON v h)
    (ht : Transfer cJSON rejects exits v os v') : JustifiedFrom (SuccessSound cJSON) h os := by
  cases ht with
  | answer line state connected waits verdict =>
    refine ⟨trivial, ?_, trivial⟩
    rcases verdict with ⟨rfl, hsaved⟩ | rfl
    · obtain ⟨q, k, before, between, hq, hk, rfl, hopened, hbetween⟩ := ha waits
      obtain ⟨haccepted, hfinished, -⟩ := hl.active q hq
      exact ⟨q, k, before, between, line, hq, accepted_append.2 (.inl haccepted),
        by simpa using hfinished,
        by simp [hk], hopened, by simpa using (hs.current k hk).2, hbetween, hsaved⟩
    · trivial
  | lose handshaked connected =>
    refine justifiedFrom_of_forall ?_ h
    cases v.active.isSome || v.waiting <;> simp [SuccessSound]
  | reject line written connected rejected acks =>
    refine justifiedFrom_of_forall ?_ h
    unfold failed
    rcases acks with rfl | ⟨text, sent, rfl⟩ <;> cases v.active.isSome <;> simp [SuccessSound]
  | leave left =>
    refine justifiedFrom_of_forall ?_ h
    cases v.session.isSome <;> simp [SuccessSound]
  | _ => exact justifiedFrom_of_forall (by simp [SuccessSound]) h

/-- **Success is sound.** Along every run in which no handshake is refused while the worker
awaits the answer to its request, every success is justified by what precedes it. -/
theorem success_sound (cJSON : CJsonLibrary) (config : FactoryUploadConfig) (es : List Event)
    (hes : (service cJSON).Along (fun c e => ¬ WaitLeftSet cJSON c e) (Impl.init config) es) :
    Justified (SuccessSound cJSON) ((service cJSON).run (Impl.init config) es).history := by
  have hrun := Machine.invariant (I := fun c => Sound cJSON c ∧
    Awaiting c.state.slot c.history ∧ Justified (SuccessSound cJSON) c.history)
    (fun c e hc hguard => ?_)
    ⟨sound_init config, .of_not_waiting rfl, justified_nil _⟩ hes
  · exact hrun.2.2
  · obtain ⟨hsound, hawaiting, hjustified⟩ := hc
    obtain ⟨ht, -⟩ : Refines cJSON _ _ _ _ := step_transfer hsound.wf e
    exact ⟨sound_next hsound e,
      hawaiting.step hsound.ledger hsound.sessions ht hguard,
      justified_append.2 ⟨hjustified, hawaiting.justified hsound.ledger hsound.sessions ht⟩⟩

/-- The service starts, is greeted, gets a payload and sends it. -/
def sentRun : List Event :=
  [.start] ++ works 7 ++ hears "M5FACTORY:HANDSHAKE \x7b\"proto\":1,\"role\":\"tab5\"\x7d" ++
    works 4 ++ queues "A" ++ works 12

/-- Then it hears that the result was saved. -/
def savedRun : List Event := sentRun ++ hears "M5FACTORY:ACK_RESULT \x7b\"saved\":true\x7d"

theorem savedRun_guarded : (service sampleJson).Along (fun c e => ¬ WaitLeftSet sampleJson c e)
    (Impl.init {}) savedRun := by
  decide +kernel

theorem success_sound_savedRun :
    Obs.finished (some ⟨0, ['A']⟩) .SUCCEEDED ∈
        ((service sampleJson).run (Impl.init {}) savedRun).history ∧
      Justified (SuccessSound sampleJson)
        ((service sampleJson).run (Impl.init {}) savedRun).history :=
  ⟨by decide +kernel, success_sound sampleJson {} savedRun savedRun_guarded⟩

/-- While the answer is awaited, a handshake without payload is refused; then a second payload
is queued, and the service hears that the result was saved. -/
def waitLeftSetRun : List Event :=
  sentRun ++ hears "M5FACTORY:HANDSHAKE" ++ queues "B" ++ works 5 ++
    hears "M5FACTORY:ACK_RESULT \x7b\"saved\":true\x7d"

theorem waitLeftSetRun_results :
    ((service sampleJson).run (Impl.init {}) waitLeftSetRun).history.filterMap Obs.result =
      [⟨0, ['A']⟩] := by
  decide +kernel

/-- The second payload is published as succeeded without having been sent. -/
theorem wait_left_set_succeeds :
    ¬ ∀ (cJSON : CJsonLibrary) (config : FactoryUploadConfig) (es : List Event),
      Justified (SuccessSound cJSON) ((service cJSON).run (Impl.init config) es).history := by
  intro hclaim
  have hmem : .finished (some ⟨1, ['B']⟩) .SUCCEEDED ∈
      ((service sampleJson).run (Impl.init {}) waitLeftSetRun).history := by
    decide +kernel
  obtain ⟨before, after, hsplit⟩ := List.append_of_mem hmem
  obtain ⟨q, k, sent, between, line, hq, -, -, rfl, -⟩ :=
    hclaim sampleJson {} waitLeftSetRun before _ after hsplit
  obtain rfl : ⟨1, ['B']⟩ = q := Option.some.inj hq
  have hwritten : (⟨1, ['B']⟩ : Request) ∈
      ((service sampleJson).run (Impl.init {}) waitLeftSetRun).history.filterMap Obs.result :=
    mem_results.2 ⟨some k, _, true, by
      rw [hsplit]
      exact List.mem_append_left _ (List.mem_append_right _ List.mem_cons_self)⟩
  rw [waitLeftSetRun_results] at hwritten
  exact absurd hwritten (by decide)

/-! ## The slot -/

/-- The slot is exact: `request_active` is set exactly while some accepted request is
unfinished, which is then the pending one or the worker's, and not both. -/
structure SlotExact (v : Slot) (h : List Obs) : Prop where
  request_active : v.request_active = true ↔ v.pending.isSome = true ∨ v.active.isSome = true
  unfinished : ∀ q, Accepted h q ∧ ¬ Finished h q ↔ v.pending = some q ∨ v.active = some q
  exclusive : v.active.isSome = true → v.pending = none
  awaited : v.waiting = true → v.active.isSome = true

theorem SlotExact.init : SlotExact {} [] := by
  constructor <;> simp

/-- A move that neither accepts nor finishes anything keeps the slot exact. -/
theorem SlotExact.stay {v v' : Slot} {h os : List Obs} (hx : SlotExact v h)
    (hpending : v'.pending = v.pending) (hactive : v'.active = v.active)
    (hrequest : v'.request_active = v.request_active)
    (hwaiting : v'.waiting = true → v.active.isSome = true)
    (haccepted : ∀ q, ¬ Accepted os q) (hfinished : ∀ q, ¬ Finished os q) :
    SlotExact v' (h ++ os) where
  request_active := by rw [hpending, hactive, hrequest]; exact hx.request_active
  unfinished q := by simp [hpending, hactive, haccepted, hfinished, hx.unfinished]
  exclusive := by rw [hpending, hactive]; exact hx.exclusive
  awaited hw := by rw [hactive]; exact hwaiting hw

/-- A move that finishes the worker's request, if there is one, keeps the slot exact. -/
theorem SlotExact.release {v v' : Slot} {h os : List Obs} (hx : SlotExact v h)
    (hpending : v'.pending = v.pending) (hactive : v'.active = none)
    (hwaiting : v'.waiting = false) (hrequest : v.active.isSome = true → v'.request_active = false)
    (hidle : v.active = none → v'.request_active = v.request_active)
    (haccepted : ∀ q, ¬ Accepted os q) (hfinished : ∀ q, Finished os q ↔ v.active = some q) :
    SlotExact v' (h ++ os) where
  request_active := by
    rw [hpending, hactive]
    cases hv : v.active with
    | none =>
      rw [hidle hv, hx.request_active, hv]
    | some q =>
      have hbusy : v.active.isSome = true := by rw [hv]; rfl
      simp [hrequest hbusy, hx.exclusive hbusy]
  unfinished q := by
    have hold := hx.unfinished q
    simp only [accepted_append, finished_append, hfinished, haccepted, or_false, not_or, hpending,
      hactive]
    constructor
    · rintro ⟨haccepted, hnot, hne⟩
      exact .inl ((hold.1 ⟨haccepted, hnot⟩).resolve_right hne)
    · rintro (hp | hn)
      · refine ⟨(hold.2 (.inl hp)).1, (hold.2 (.inl hp)).2, fun hq => ?_⟩
        rw [hx.exclusive (by rw [hq]; rfl)] at hp
        cases hp
      · cases hn
  exclusive hb := by rw [hactive] at hb; cases hb
  awaited hw := by rw [hwaiting] at hw; cases hw

/-- Every move keeps the slot exact, except the two that leave something behind. -/
theorem SlotExact.step {rejects exits : Bool} {v v' : Slot} {h os : List Obs}
    (hx : SlotExact v h) (hl : Ledger v h) (ht : Transfer cJSON rejects exits v os v')
    (hrejects : ¬ (rejects = true ∧ v.active.isSome = true ∧ v.waiting = true))
    (hexits : ¬ (exits = true ∧ v.active.isSome = true)) : SlotExact v' (h ++ os) := by
  cases ht with
  | idle => simpa using hx
  | heard line => exact hx.stay rfl rfl rfl hx.awaited (by simp) (by simp)
  | greet line text connected valid =>
    exact hx.stay rfl rfl rfl hx.awaited (by simp) (by simp)
  | accept payload free inactive fits =>
    have hnone : v.active = none := by
      by_contra hne
      have hset := hx.request_active.2 (.inr (Option.isSome_iff_ne_none.2 hne))
      rw [inactive] at hset
      cases hset
    have hnew : ¬ Finished h ⟨v.accepted, strip_line_breaks payload⟩ := fun hf =>
      (hl.numbered _ (hl.finished _ hf)).false
    have hold := hx.unfinished
    have hwaits := hx.awaited
    constructor <;> simp <;> grind
  | drop unconnected held =>
    obtain ⟨hnone, hwaiting⟩ := hl.unconnected unconnected
    have hold := hx.unfinished
    constructor <;> simp <;> grind
  | connect unconnected =>
    exact hx.stay rfl rfl rfl nofun (by simp) (by simp)
  | take free connected =>
    have hrequest := hx.request_active
    have hold := hx.unfinished
    have hwaits := hx.awaited
    constructor <;> simp <;> grind
  | send q connected held unsent greeted =>
    exact hx.stay rfl rfl rfl (fun _ => by rw [held]; rfl) (by simp) (by simp)
  | lose handshaked connected =>
    have hbusy : (v.active.isSome || v.waiting) = v.active.isSome := by
      cases hw : v.waiting with
      | false => exact Bool.or_false _
      | true => rw [hx.awaited hw, Bool.or_true]
    rw [hbusy]
    refine hx.release rfl rfl rfl (fun hb => by simp [hb]) (fun hn => by simp [hn]) ?_ ?_ <;>
      cases v.active <;> simp
  | reject line written connected rejected acks =>
    have hwaiting : v.waiting = false := Bool.eq_false_iff.2 fun hw =>
      hrejects ⟨rejected, hx.awaited hw, hw⟩
    refine hx.release rfl rfl hwaiting (fun hb => by simp [hb]) (fun hn => by simp [hn]) ?_ ?_ <;>
      unfold failed <;> rcases acks with rfl | ⟨text, sent, rfl⟩ <;> cases v.active <;> simp
  | answer line state connected waits verdict =>
    obtain ⟨q, hq⟩ := Option.isSome_iff_exists.1 (hx.awaited waits)
    exact hx.release rfl rfl rfl (fun _ => rfl) (by simp [hq]) (by simp) (by simp [hq])
  | sendFailed q sent connected held unsent greeted =>
    exact hx.release rfl rfl unsent (fun _ => rfl) (by simp [held]) (by simp)
      (by simp [held])
  | timeout busy =>
    obtain ⟨q, hq⟩ := Option.isSome_iff_exists.1 (busy.elim id hx.awaited)
    exact hx.release rfl rfl rfl (fun _ => rfl) (by simp [hq]) (by simp) (by simp [hq])
  | leave left =>
    have hnone : v.active = none := by
      by_contra hne
      exact hexits ⟨left, Option.isSome_iff_ne_none.2 hne⟩
    refine hx.release rfl rfl rfl (by simp [hnone]) (fun _ => rfl) ?_ ?_ <;>
      cases v.session.isSome <;> simp [hnone]

/-- What the slot owes the callers of `queue_result`. -/
structure SlotServes (c : Config Impl Obs) : Prop where
  unfinished : c.state.request_active = true ↔
    ∃ q, Accepted c.history q ∧ ¬ Finished c.history q
  held : c.state.request_active = true ↔ c.state.pending_payload.isSome = true ∨
    ∃ w, c.state.worker = some w ∧ w.active_payload.isSome = true
  once : (c.history.filterMap Obs.finish).Nodup
  accepts : c.state.pending_payload = none →
    (∀ w, c.state.worker = some w → w.active_payload = none) → c.state.worker.isSome = true →
    c.state.listener_running = true → ∀ payload heartbeat_now now,
    c.state.heartbeat_fresh heartbeat_now = true → admissible (strip_line_breaks payload) = true →
    ∃ q, (c.state.queue payload heartbeat_now now).2 = .ok q

/-- On a free slot, a running and fresh listener accepts every admissible payload. -/
theorem queue_accepts {s : Impl} {payload : List Char} {heartbeat_now now : ℤ}
    (hpending : s.pending_payload = none) (hactive : s.request_active = false)
    (hworker : s.worker.isSome = true) (hrunning : s.listener_running = true)
    (hfresh : s.heartbeat_fresh heartbeat_now = true)
    (hfits : admissible (strip_line_breaks payload) = true) :
    ∃ q, (s.queue payload heartbeat_now now).2 = .ok q := by
  simp only [admissible, Bool.and_eq_true, Bool.not_eq_true', decide_eq_true_eq] at hfits
  refine ⟨⟨s.accepted, strip_line_breaks payload⟩, ?_⟩
  unfold Impl.queue
  dsimp only
  rw [if_neg (by simp [hfits.1]), if_neg (not_lt.2 hfits.2),
    if_neg (by simpa [Option.isSome_iff_ne_none] using hworker),
    if_neg (by simp [hrunning, hfresh]), if_neg (by simp [hpending, hactive])]

theorem Impl.slot_active_isSome {s : Impl} : s.slot.active.isSome = true ↔
    ∃ w, s.worker = some w ∧ w.active_payload.isSome = true := by
  cases hw : s.worker <;> simp [Impl.slot, Impl.slotWith, hw]

theorem SlotExact.serves {c : Config Impl Obs} (hx : SlotExact c.state.slot c.history)
    (hc : Sound cJSON c) : SlotServes c := by
  have hheld : c.state.request_active = true ↔ c.state.pending_payload.isSome = true ∨
      ∃ w, c.state.worker = some w ∧ w.active_payload.isSome = true := by
    rw [← Impl.slot_active_isSome]
    exact hx.request_active
  refine ⟨hx.request_active.trans ?_, hheld, hc.finished_once, ?_⟩
  · simp only [hx.unfinished, exists_or, Option.isSome_iff_exists]
  · intro hpending hidle hworker hrunning payload heartbeat_now now hfresh hfits
    refine queue_accepts hpending (Bool.eq_false_iff.2 fun hset => ?_) hworker hrunning hfresh
      hfits
    rcases hheld.1 hset with hp | ⟨w, hw, ha⟩
    · rw [hpending] at hp
      cases hp
    · rw [hidle w hw] at ha
      cases ha

/-- **The slot serves.** Along every run in which no handshake is refused while a result is
awaited, and in which `run` returns only without a request, the slot is exact: at every point,
the loop boundaries and the times without a worker among them. -/
theorem slot_serves (cJSON : CJsonLibrary) (config : FactoryUploadConfig) (es : List Event)
    (hes : (service cJSON).Along (fun c e => ¬ WaitLeftSet cJSON c e ∧ ¬ RequestLeftHeld c e)
      (Impl.init config) es) :
    SlotServes ((service cJSON).run (Impl.init config) es) := by
  have hrun := Machine.invariant (I := fun c => Sound cJSON c ∧ SlotExact c.state.slot c.history)
    (fun c e hc hguard => ?_) ⟨sound_init config, SlotExact.init⟩ hes
  · exact hrun.2.serves hrun.1
  · obtain ⟨ht, -⟩ : Refines cJSON _ _ _ _ := step_transfer hc.1.wf e
    exact ⟨sound_next hc.1 e, hc.2.step hc.1.ledger ht hguard.1 hguard.2⟩

theorem slot_serves_savedRun :
    (service sampleJson).Along
        (fun c e => ¬ WaitLeftSet sampleJson c e ∧ ¬ RequestLeftHeld c e) (Impl.init {}) savedRun ∧
      SlotServes ((service sampleJson).run (Impl.init {}) savedRun) :=
  have hguard : (service sampleJson).Along
      (fun c e => ¬ WaitLeftSet sampleJson c e ∧ ¬ RequestLeftHeld c e) (Impl.init {})
      savedRun := by
    decide +kernel
  ⟨hguard, slot_serves sampleJson {} savedRun hguard⟩

/-- The worker takes a payload over, and the service is stopped before the handshake. -/
def requestLeftHeldRun : List Event :=
  [.start] ++ works 1 ++ queues "A" ++ works 6 ++ [.stop] ++ works 4 ++ [.join]

/-- After the stop no request is held, but `request_active` is set. -/
theorem request_left_held_leaks :
    ¬ ∀ (cJSON : CJsonLibrary) (config : FactoryUploadConfig) (es : List Event),
      SlotServes ((service cJSON).run (Impl.init config) es) := by
  intro hclaim
  have hleaked : ((service sampleJson).run (Impl.init {}) requestLeftHeldRun).state.worker = none ∧
      ((service sampleJson).run (Impl.init {}) requestLeftHeldRun).state.pending_payload = none ∧
      ((service sampleJson).run (Impl.init {}) requestLeftHeldRun).state.request_active = true := by
    decide +kernel
  obtain ⟨hworker, hpending, hactive⟩ := hleaked
  rcases (hclaim sampleJson {} requestLeftHeldRun).held.1 hactive with hp | ⟨w, hw, -⟩
  · rw [hpending] at hp
    cases hp
  · rw [hworker] at hw
    cases hw

end FactoryTest.Upload

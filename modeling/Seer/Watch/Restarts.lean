import Seer.Alert.Automaton
import Seer.Lib.Concurrent
import Seer.Watch.Host
import Seer.Watch.Identity

/-!
# Open alarms across restarts

The Sent maps and the dashboard survive a restart, the flags of the latched alarms do
not. While the process keeps running a lowered flag means that the alarm is closed, or
that its resolution is on the queue. A shutdown with the alarm raised breaks this: the
next process starts with the flag lowered and the alarm open.
-/
namespace Seer.Watch

open Seer.Alert Seer.Lib

/-! ## The last word on a text -/

/-- The newest alert of a text, `true` for a trigger. -/
def lastEdge (text : String) (emitted : List Emission) : Option Bool :=
  ((emitted.filter (·.message == text)).map (!·.resolved)).getLast?

theorem lastEdge_append (text : String) (earlier later : List Emission) :
    lastEdge text (earlier ++ later) = (lastEdge text later).or (lastEdge text earlier) := by
  simp [lastEdge, List.getLast?_append]

theorem lastEdge_singleton (text : String) (emission : Emission) :
    lastEdge text [emission] =
      if emission.message = text then some (!emission.resolved) else none := by
  by_cases own : emission.message = text <;> simp [lastEdge, own]

/-- Where a text belongs to one alarm only, its alerts are the alarm's edges. -/
theorem lastEdge_eq_edges {text : String} {alarm : Alarm} {emitted : List Emission}
    (owned : ∀ emission ∈ emitted, emission.message = text ↔ emission.alarm = alarm) :
    lastEdge text emitted = (edges alarm emitted).getLast? := by
  have same : emitted.filter (·.message == text) = emitted.filter (·.alarm == alarm) := by
    apply List.filter_congr
    intro emission member
    rw [Bool.eq_iff_iff]
    simpa using owned emission member
  rw [lastEdge, same, edges]

/-- Nothing of the text is open at the destination, or its resolution is on the way. -/
def Settled (cache : AlarmCache) (queue : List Emission) (dest : NotifyDest) (text : String) :
    Prop :=
  lastEdge text queue = some false ∨
    (lastEdge text queue = none ∧ (view cache dest text).opened = false)

/-- What the dashboard shows for a chain and a text. -/
def shownAt (cache : AlarmCache) (name text : String) : Option Time :=
  cache.allAlarms[name]?.bind (·[text]?)

section Dashboard
variable (name text : String) (now : Instant)

theorem shownAt_recordDashboardAlarm (cache : AlarmCache) (message : String) (resolved : Bool) :
    shownAt (recordDashboardAlarm cache now name message resolved) name text =
      if message = text then (if resolved then none else some now.val)
      else shownAt cache name text := by
  simp only [shownAt, recordDashboardAlarm, setAllAlarms, Table.get_insert_self, Option.bind_some]
  cases cache.allAlarms[name]? <;> cases resolved <;>
    simp [Table.get_insert, Table.get_erase]

theorem shownAt_clearNoBlocks (cache : AlarmCache) (hidden : shownAt cache name text = none) :
    shownAt (clearNoBlocks cache name) name text = none := by
  unfold clearNoBlocks
  cases found : cache.allAlarms[name]? with
  | none => exact hidden
  | some chainAlarms =>
    have absent : chainAlarms[text]? = none := by simpa [shownAt, found] using hidden
    simp [shownAt, setAllAlarms, absent]

/-- Only a trigger of the text itself puts it on the dashboard, and only while alerts are
taken. -/
theorem shownAt_recordEmission (accepting : Bool) (cache : AlarmCache) (emission : Emission)
    (hidden : accepting = true → emission.message = text → emission.resolved = true)
    (before : accepting = false ∨ emission.message ≠ text → shownAt cache name text = none) :
    shownAt (recordEmission name accepting now cache emission) name text = none := by
  have recorded : shownAt (if accepting then
      recordDashboardAlarm cache now name emission.message emission.resolved else cache)
      name text = none := by
    cases accepting with
    | false => exact before (.inl rfl)
    | true =>
      rw [if_pos rfl, shownAt_recordDashboardAlarm]
      by_cases own : emission.message = text
      · simp [own, hidden rfl own]
      · simp [own, before (.inr own)]
  unfold recordEmission
  dsimp only
  split
  · exact shownAt_clearNoBlocks name text _ recorded
  · exact recorded

/-- After alerts whose last word on a text is a resolution, it is off the dashboard; alerts
that are not taken leave it off. -/
theorem shownAt_recordEmissions (accepting : Bool) (cache : AlarmCache) (emitted : List Emission)
    (closed : lastEdge text (if accepting then emitted else []) = some false ∨
      (lastEdge text (if accepting then emitted else []) = none ∧ shownAt cache name text = none)) :
    shownAt (emitted.foldl (recordEmission name accepting now) cache) name text = none := by
  induction emitted using List.reverseRecOn with
  | nil => cases accepting <;> simpa [lastEdge] using closed
  | append_singleton earlier last ih =>
    rw [List.foldl_append, List.foldl_cons, List.foldl_nil]
    cases accepting with
    | false =>
      refine shownAt_recordEmission name text now false _ last (fun taken => nomatch taken) fun _ => ?_
      exact ih closed
    | true =>
      rw [if_pos rfl, lastEdge_append, lastEdge_singleton] at closed
      apply shownAt_recordEmission
      · intro _ own
        simpa [own] using closed
      · rintro (stopped | other)
        · cases stopped
        · exact ih (by simpa [other] using closed)

end Dashboard

/-! ## The condition on a history -/

/-- The text of the latched alarm is the text of no other alarm of the chain. -/
structure TextApart (config : Config) (chain : ChainConfig) (moniker : String) (latch : Latch) :
    Prop where
  latches : ∀ other, other ≠ latch → other.message chain moniker ≠ latch.message chain moniker
  inactive : ∀ reason, reason = jailedReason ∨ reason = tombstonedReason →
    inactiveMessage moniker reason ≠ latch.message chain moniker
  nodes : ∀ node ∈ chain.nodes,
    nodeDownMessage config chain node.url ≠ latch.message chain moniker

def Named (seen : Option ValInfo) (moniker : String) : Prop :=
  ∀ info, seen = some info → info.moniker = moniker

/-- The condition on one step in the state it meets: the loop sees one moniker and the
chain's own nodes, other sources use other texts, and a shutdown finds the alarm closed. -/
def Meets (chain : ChainConfig) (moniker : String) (latch : Latch) (host : Host) : HostStep → Prop
  | .tick _ reads =>
    (host.watch.waiting = false → Named reads.valInfo moniker ∧ Named reads.percentInfo moniker) ∧
    nodeSettings (reads.nodes.map Prod.fst) = nodeSettings chain.nodes
  | .foreign delivery => delivery.msg.message ≠ latch.message chain moniker
  | .stop => host.watch.flag latch = false
  | .block _ => True
  | .deliver _ _ _ => True
  | .restart _ => True

section Invariant
variable (config : Config) (name : String) (chain : ChainConfig) (moniker : String) (latch : Latch)

/-- What holds between the steps of such a history. -/
structure HostInv (host : Host) : Prop where
  quiet : ∀ dest, Quiet host.cache dest
  /-- A destination the chain does not reach never opens the text. -/
  unreached : ∀ dest, reaches config chain dest = false →
    (view host.cache dest (latch.message chain moniker)).opened = false
  /-- A lowered flag, or a shutdown under way, means that the alarm is settled. -/
  settled : (host.accepting = true → host.watch.flag latch = false) →
    ∀ dest, Settled host.cache host.queue dest (latch.message chain moniker)
  hidden : (host.accepting = true → host.watch.flag latch = false) →
    shownAt host.cache name (latch.message chain moniker) = none
  reason : host.watch.inactive = jailedReason ∨ host.watch.inactive = tombstonedReason
  /-- An open stalled alarm without a newer block is still due. -/
  stalled : host.watch.alertState.lastBlockAlarm = true →
    host.watch.alertState.stalledResolutionPending = false →
    stale chain host.watch.alertState host.clock = true

end Invariant

section Steps
variable {config : Config} {name : String} {chain : ChainConfig} {moniker : String} {latch : Latch}

/-- A tick uses the text for the latched alarm and for no other. -/
theorem emits_text_iff {state : State} {seen : Seen} {emission : Emission}
    (apart : TextApart config chain moniker latch)
    (named : state.waiting = false → Named seen.valInfo moniker ∧ Named seen.percentInfo moniker)
    (nodes : nodeSettings (seen.nodes.map Prod.fst) = nodeSettings chain.nodes)
    (reason : state.inactive = jailedReason ∨ state.inactive = tombstonedReason)
    (emits : Emits config chain state seen emission) :
    emission.message = latch.message chain moniker ↔ emission.alarm = latch.alarm := by
  -- An emission of a latch has that latch's text, so texts tell the latches apart.
  have latched : ∀ other : Latch, emission.message = other.message chain moniker →
      emission.alarm = other.alarm →
      (emission.message = latch.message chain moniker ↔ emission.alarm = latch.alarm) := by
    intro other message own
    rw [message, own]
    by_cases same : other = latch
    · simp [same]
    · refine iff_of_false (apart.latches other same) ?_
      cases other <;> cases latch <;> simp_all [Latch.alarm]
  cases emits with
  | waitServers => exact latched .noServers rfl rfl
  | servers => exact latched .noServers rfl rfl
  | stalled => exact latched .stalled rfl rfl
  | consecutive main found =>
    refine latched .consecutive ?_ rfl
    rw [← (named main).1 _ found]
    rfl
  | percentage main _ read =>
    refine latched .percentage ?_ rfl
    rw [← (named main).2 _ read]
    rfl
  | inactive main found _ reasoned =>
    refine iff_of_false ?_ (by cases latch <;> simp [inactiveAlert, Latch.alarm])
    have known := reasoned.elim (fun same => same ▸ reason) .inr
    rw [inactiveAlert, (named main).1 _ found]
    exact apart.inactive _ known
  | nodeDown _ _ listed =>
    refine iff_of_false ?_ (by cases latch <;> simp [nodeDownAlert, Latch.alarm])
    obtain ⟨own, member, url, -⟩ := get_of_nodeSettings nodes listed
    rw [nodeDownAlert, ← url]
    exact apart.nodes own (List.mem_of_getElem? member)

theorem inactive_tick (state : State) (seen : Seen)
    (reason : state.inactive = jailedReason ∨ state.inactive = tombstonedReason) :
    (tick config chain state seen).1.inactive = jailedReason ∨
      (tick config chain state seen).1.inactive = tombstonedReason := by
  unfold tick
  split
  · exact reason
  · unfold mainTick
    cases seen.valInfo with
    | none => exact reason
    | some info =>
      dsimp only
      unfold watchInactive
      cases seen.lastValInfo with
      | none => exact reason
      | some last =>
        dsimp only
        split
        · split
          · cases info.tombstoned
            · exact reason
            · exact .inr rfl
          · split <;> exact reason
        · exact reason

/-- A stalled chain stays stalled until a block comes. -/
theorem stale_mono (alertState : AlertState) {earlier later : Time} (order : earlier ≤ later)
    (before : stale chain alertState earlier = true) : stale chain alertState later = true := by
  simp only [stale, Bool.and_eq_true, decide_eq_true_eq] at before ⊢
  exact ⟨before.1, Int.lt_of_lt_of_le before.2 (Int.add_le_add_right order _)⟩

theorem stalled_checkStalledAlert (alertState : AlertState) {earlier now : Time}
    (order : earlier ≤ now) (seen : Option ValInfo)
    (due : alertState.lastBlockAlarm = true → alertState.stalledResolutionPending = false →
      stale chain alertState earlier = true) :
    let after := (checkStalledAlert chain alertState now seen).1
    after.lastBlockAlarm = true → after.stalledResolutionPending = false →
      stale chain after now = true := by
  dsimp only
  unfold checkStalledAlert
  split
  next raising =>
    simp only [Bool.and_eq_true] at raising
    exact fun _ _ => raising.2
  next =>
    split
    · intro raised
      cases raised
    · exact fun raised waiting => stale_mono alertState order (due raised waiting)

theorem opened_recordEmissions (accepting : Bool) (now : Instant) (cache : AlarmCache)
    (emitted : List Emission) (dest : NotifyDest) (text : String) :
    (view (emitted.foldl (recordEmission name accepting now) cache) dest text).opened =
      (view cache dest text).opened := by
  simp only [view, sent_recordEmissions]

theorem quiet_recordEmissions (accepting : Bool) (now : Instant) {cache : AlarmCache}
    (emitted : List Emission) {dest : NotifyDest} (quiet : Quiet cache dest) :
    Quiet (emitted.foldl (recordEmission name accepting now) cache) dest where
  idle := by rw [inFlight_recordEmissions, quiet.idle]
  nonzero := by simpa only [sent_recordEmissions] using quiet.nonzero

/-- The tick's last word on the text agrees with the flag it leaves. -/
theorem lastEdge_tick {state : State} {seen : Seen}
    (owned : ∀ emission ∈ (tick config chain state seen).2,
      emission.message = latch.message chain moniker ↔ emission.alarm = latch.alarm)
    (lowered : (tick config chain state seen).1.flag latch = false) :
    lastEdge (latch.message chain moniker) (tick config chain state seen).2 = some false ∨
      (lastEdge (latch.message chain moniker) (tick config chain state seen).2 = none ∧
        state.flag latch = false) := by
  have last := (tick_latched config chain state seen latch).isChain.2
  rw [lowered, List.getLastD_eq_getLast?] at last
  rw [lastEdge_eq_edges owned]
  cases found : (edges latch.alarm (tick config chain state seen).2).getLast? with
  | none => exact .inr ⟨rfl, by simpa [found] using last⟩
  | some edge => exact .inl (by simpa [found] using last)

theorem stalled_tick (state : State) (seen : Seen) {earlier : Time} (order : earlier ≤ seen.now.val)
    (due : state.alertState.lastBlockAlarm = true →
      state.alertState.stalledResolutionPending = false →
      stale chain state.alertState earlier = true) :
    let after := (tick config chain state seen).1.alertState
    after.lastBlockAlarm = true → after.stalledResolutionPending = false →
      stale chain after seen.now = true := by
  dsimp only
  unfold tick
  split
  · exact fun raised waiting => stale_mono state.alertState order (due raised waiting)
  · unfold mainTick
    cases seen.valInfo with
    | none => exact fun raised waiting => stale_mono state.alertState order (due raised waiting)
    | some info => exact stalled_checkStalledAlert state.alertState order seen.stalledInfo due

theorem HostInv.tick {host : Host} (inv : HostInv config name chain moniker latch host)
    (apart : TextApart config chain moniker latch) (elapsed : Nat) (reads : Seen)
    (meets : Meets chain moniker latch host (.tick elapsed reads)) :
    HostInv config name chain moniker latch
      (hostStep config name chain host (.tick elapsed reads)) := by
  have order : host.clock.val ≤ (host.clock.after elapsed).val :=
    Int.le_add_of_nonneg_right (Int.natCast_nonneg _)
  have owned : ∀ emission ∈ (Watch.tick config chain host.watch (host.sees elapsed reads)).2,
      emission.message = latch.message chain moniker ↔ emission.alarm = latch.alarm := by
    intro emission member
    refine emits_text_iff apart ?_ ?_ inv.reason (emits_of_mem_tick member)
    · exact meets.1
    · exact meets.2
  -- While alerts are taken, the tick's last word on the text is the flag it leaves.
  have word : (host.accepting = true →
      (Watch.tick config chain host.watch (host.sees elapsed reads)).1.flag latch = false) →
      let emitted := if host.accepting then
        (Watch.tick config chain host.watch (host.sees elapsed reads)).2 else []
      lastEdge (latch.message chain moniker) emitted = some false ∨
        (lastEdge (latch.message chain moniker) emitted = none ∧
          (host.accepting = true → host.watch.flag latch = false)) := by
    intro lowered
    cases accepting : host.accepting with
    | false => simp [lastEdge]
    | true => simpa using lastEdge_tick owned (lowered accepting)
  constructor
  · exact fun dest => quiet_recordEmissions _ _ _ (inv.quiet dest)
  · intro dest apart
    exact (opened_recordEmissions _ _ _ _ _ _).trans (inv.unreached dest apart)
  · intro lowered dest
    simp only [Settled, hostStep, lastEdge_append, opened_recordEmissions]
    rcases word lowered with closed | ⟨silent, before⟩
    · exact .inl (by rw [closed, Option.some_or])
    · rw [silent, Option.none_or]
      exact inv.settled before dest
  · intro lowered
    apply shownAt_recordEmissions
    rcases word lowered with closed | ⟨silent, before⟩
    · exact .inl closed
    · exact .inr ⟨silent, inv.hidden before⟩
  · exact inactive_tick host.watch (host.sees elapsed reads) inv.reason
  · exact stalled_tick host.watch (host.sees elapsed reads) order inv.stalled

/-- A delivered resolution leaves its text closed, whether or not it was sent. -/
theorem keyStep_resolution {dest : NotifyDest} {key : KeyState} {delivery : Delivery}
    (resolution : delivery.msg.resolved = true) (accepted : delivery.network = {})
    (unreached : enabledAt delivery.msg dest = false → key.opened = false) :
    (keyStep dest key delivery).1.opened = false := by
  cases enabled : enabledAt delivery.msg dest with
  | false =>
    rw [keyStep_disabled key enabled]
    exact unreached enabled
  | true =>
    have success := (attemptAt_default delivery.msg dest).1
    cases opened : key.opened <;>
      simp [keyStep, sends, enabled, resolution, opened, accepted, success, KeyState.accept]

theorem HostInv.deliver {host : Host} (inv : HostInv config name chain moniker latch host)
    (reserveAt completeAt : NotifyDest → Instant) (order : List NotifyDest) :
    HostInv config name chain moniker latch
      (hostStep config name chain host (.deliver reserveAt completeAt order)) := by
  unfold hostStep
  cases pending : host.queue with
  | nil => simpa [pending] using inv
  | cons emission later =>
    dsimp only
    generalize made : emissionDelivery config name chain emission reserveAt completeAt order = delivery
    have message : delivery.msg.message = emission.message := by rw [← made]; rfl
    have resolved : delivery.msg.resolved = emission.resolved := by rw [← made]; rfl
    have network : delivery.network = {} := by rw [← made]; rfl
    have enabled : ∀ dest, enabledAt delivery.msg dest = reaches config chain dest := by
      rw [← made]
      exact fun dest => enabledAt_alert config name chain _ _ _ _ dest
    have moved := fun dest => (deliverAlert_refines (inv.quiet dest) delivery
      (latch.message chain moniker)).2
    constructor
    · exact fun dest => quiet_deliverAlert (inv.quiet dest) delivery
    · intro dest outside
      dsimp only
      rw [moved]
      split
      next own =>
        rw [keyStep_disabled _ ((enabled dest).trans outside), own]
        exact inv.unreached dest outside
      next => exact inv.unreached dest outside
    · intro lowered dest
      have before := inv.settled lowered dest
      rw [pending, Settled, ← List.singleton_append, lastEdge_append, lastEdge_singleton] at before
      unfold Settled
      dsimp only
      cases rest : lastEdge (latch.message chain moniker) later with
      | some edge => exact .inl (by simpa [rest] using before)
      | none =>
        refine .inr ⟨rfl, ?_⟩
        rw [moved, message]
        split
        next own =>
          have closing : emission.resolved = true := by simpa [rest, own] using before
          apply keyStep_resolution (resolved.trans closing) network
          intro disabled
          rw [own]
          exact inv.unreached dest ((enabled dest).symm.trans disabled)
        next other => simpa [rest, other] using before
    · intro lowered
      simp only [shownAt, allAlarms_deliverAlert]
      exact inv.hidden lowered
    · exact inv.reason
    · exact inv.stalled

theorem HostInv.foreign {host : Host} (inv : HostInv config name chain moniker latch host)
    (delivery : Delivery) (other : delivery.msg.message ≠ latch.message chain moniker) :
    HostInv config name chain moniker latch
      (hostStep config name chain host (.foreign delivery)) := by
  have same : ∀ dest, view (deliverAlert host.cache delivery).cache dest
      (latch.message chain moniker) = view host.cache dest (latch.message chain moniker) := by
    intro dest
    rw [(deliverAlert_refines (inv.quiet dest) delivery _).2, if_neg other]
  constructor
  · exact fun dest => quiet_deliverAlert (inv.quiet dest) delivery
  · intro dest outside
    exact (congrArg KeyState.opened (same dest)).trans (inv.unreached dest outside)
  · intro lowered dest
    simp only [Settled, hostStep, same]
    exact inv.settled lowered dest
  · intro lowered
    simp only [shownAt, hostStep, allAlarms_deliverAlert]
    exact inv.hidden lowered
  · exact inv.reason
  · exact inv.stalled

theorem HostInv.block {host : Host} (inv : HostInv config name chain moniker latch host)
    (time : Time) :
    HostInv config name chain moniker latch (hostStep config name chain host (.block time)) := by
  have flags : (step config chain host.watch (.block time)).1.flag latch = host.watch.flag latch := by
    cases latch <;> rfl
  constructor
  · exact inv.quiet
  · exact inv.unreached
  · intro lowered
    exact inv.settled fun accepting => flags.symm.trans (lowered accepting)
  · intro lowered
    exact inv.hidden fun accepting => flags.symm.trans (lowered accepting)
  · exact inv.reason
  · -- A block on an open alarm leaves its resolution pending.
    intro raised waiting
    have raised : host.watch.alertState.lastBlockAlarm = true := raised
    simp [hostStep, step, recordFinalBlock, raised] at waiting

theorem HostInv.stop {host : Host} (inv : HostInv config name chain moniker latch host)
    (lowered : host.watch.flag latch = false) :
    HostInv config name chain moniker latch (hostStep config name chain host .stop) where
  quiet := inv.quiet
  unreached := inv.unreached
  settled _ := inv.settled fun _ => lowered
  hidden _ := inv.hidden fun _ => lowered
  reason := inv.reason
  stalled := inv.stalled

theorem opened_restoredCache {cache : AlarmCache} {now : Time} {dest : NotifyDest} {text : String}
    (closed : (view cache dest text).opened = false) :
    (view (restoredCache config cache now) dest text).opened = false := by
  have absent : (sent cache dest)[text]? = none :=
    Option.not_isSome_iff_eq_none.mp (by simpa only [view, Bool.not_eq_true] using closed)
  simp [view, lookup_restoredCache, absent]

theorem shownAt_restoredCache {cache : AlarmCache} {now : Time} {text : String}
    (hidden : shownAt cache name text = none) :
    shownAt (restoredCache config cache now) name text = none := by
  have restored : (restoredCache config cache now).allAlarms =
      cache.allAlarms.map fun _ chainAlarms => State.clearStale now chainAlarms := rfl
  rw [shownAt, restored, Std.ExtTreeMap.getElem?_map]
  cases found : cache.allAlarms[name]? with
  | none => rfl
  | some chainAlarms =>
    have absent : chainAlarms[text]? = none := by simpa [shownAt, found] using hidden
    simp only [Option.map_some, Option.bind_some, State.clearStale]
    rw [Table.get_filter, absent]
    rfl

theorem HostInv.restart {host : Host} (inv : HostInv config name chain moniker latch host)
    (elapsed : Nat) :
    HostInv config name chain moniker latch
      (hostStep config name chain host (.restart elapsed)) := by
  simp only [hostStep]
  split
  next drained =>
    simp only [Bool.and_eq_true, Bool.not_eq_true', List.isEmpty_iff] at drained
    have stopped : host.accepting = true → host.watch.flag latch = false := by
      simp [drained.1]
    constructor
    · intro dest
      refine ⟨rfl, fun message => ?_⟩
      dsimp only
      rw [lookup_restoredCache]
      intro kept
      exact (inv.quiet dest).nonzero message (Option.eq_some_of_filter_eq_some kept)
    · intro dest outside
      exact opened_restoredCache (inv.unreached dest outside)
    · intro _ dest
      have before := inv.settled stopped dest
      rw [drained.2] at before
      refine .inr ⟨rfl, opened_restoredCache ?_⟩
      simpa [Settled, lastEdge] using before
    · exact fun _ => shownAt_restoredCache (inv.hidden stopped)
    · exact .inl rfl
    · intro raised
      cases raised
  next => exact inv

theorem HostInv.step {host : Host} (inv : HostInv config name chain moniker latch host)
    (apart : TextApart config chain moniker latch) (next : HostStep)
    (meets : Meets chain moniker latch host next) :
    HostInv config name chain moniker latch (hostStep config name chain host next) := by
  cases next with
  | tick elapsed reads => exact inv.tick apart elapsed reads meets
  | block time => exact inv.block time
  | deliver reserveAt completeAt order => exact inv.deliver reserveAt completeAt order
  | foreign delivery => exact inv.foreign delivery meets
  | stop => exact inv.stop meets
  | restart elapsed => exact inv.restart elapsed

end Steps

/-! ## Histories -/

section History
variable (config : Config) (name : String) (chain : ChainConfig) (moniker : String) (latch : Latch)

theorem hostInv_start : HostInv config name chain moniker latch {} where
  quiet dest := quiet_newAlarmCache dest
  unreached dest _ := by rw [view_newAlarmCache]
  settled _ dest := .inr ⟨rfl, by rw [view_newAlarmCache]⟩
  hidden _ := rfl
  reason := .inl rfl
  stalled raised := by cases raised

theorem history_inv (apart : TextApart config chain moniker latch) (steps : List HostStep)
    (meets : Meeting (hostStep config name chain) (Meets chain moniker latch) {} steps) :
    HostInv config name chain moniker latch (history config name chain steps) :=
  meets.invariant (fun _ next inv met => inv.step apart next met)
    (hostInv_start config name chain moniker latch)

/-- The condition of the alarm is seen not to hold at a main-loop tick. -/
def Over (state : State) (seen : Seen) : Prop :=
  match latch with
  | .stalled => state.alertState.lastBlockTime.isZero = false ∧
      stale chain state.alertState seen.now = false
  | .noServers => seen.unreachable = false
  | .consecutive => (seen.missed : Int) < chain.alerts.consecutiveMissed
  | .percentage => ∃ info, seen.percentInfo = some info ∧ info.window ≠ 0 ∧
      percentMissed info < chain.alerts.window

/-- Seeing the condition over lowers the flag. -/
theorem flag_tick_of_over {state : State} {seen : Seen} {earlier : Time}
    (main : state.waiting = false) (found : seen.valInfo.isSome = true)
    (enabled : Enabled chain latch.alarm) (order : earlier ≤ seen.now.val)
    (due : state.alertState.lastBlockAlarm = true →
      state.alertState.stalledResolutionPending = false →
      stale chain state.alertState earlier = true)
    (ended : Over chain latch state seen) :
    (tick config chain state seen).1.flag latch = false := by
  obtain ⟨info, present⟩ := Option.isSome_iff_exists.mp found
  rw [tick, if_neg (by simp [main]), mainTick, present]
  cases latch with
  | stalled =>
    obtain ⟨-, fresh⟩ := ended
    have enabled : chain.alerts.stalledAlerts = true := enabled
    cases raised : state.alertState.lastBlockAlarm with
    | false => simp [State.flag, checkStalledAlert, fresh, raised]
    | true =>
      have pending : state.alertState.stalledResolutionPending = true := by
        by_contra waiting
        have still := stale_mono state.alertState order (due raised (by simpa using waiting))
        rw [fresh] at still
        cases still
      simp [State.flag, checkStalledAlert, enabled, raised, pending]
  | noServers =>
    have reachable : seen.unreachable = false := ended
    have enabled : chain.alerts.alertIfNoServers = true := enabled
    cases raised : state.servers.noNodes <;>
      simp [State.flag, watchServers, reachable, enabled, raised]
  | consecutive =>
    have few : (seen.missed : Int) < chain.alerts.consecutiveMissed := ended
    cases raised : state.missedAlarm <;>
      simp [State.flag, watchConsecutive, few, Int.not_le.mpr few]
  | percentage =>
    obtain ⟨read, shown, window, low⟩ := ended
    have enabled : chain.alerts.percentageAlerts = true := enabled
    have notHigh : ¬ percentMissed read > chain.alerts.window := Rat.not_lt.mpr (Rat.le_of_lt low)
    cases raised : state.alertState.percentageAlarm <;>
      simp [State.flag, checkStalledAlert_percentageAlarm, checkPercentageAlert, shown, window,
        enabled, low, raised, notHigh]

/-- Delivering what is queued closes a settled alarm everywhere. -/
theorem HostInv.drained {host : Host} (inv : HostInv config name chain moniker latch host)
    (lowered : host.accepting = true → host.watch.flag latch = false) (empty : host.queue = [])
    (dest : NotifyDest) : latch.message chain moniker ∉ sent host.cache dest := by
  have settled := inv.settled lowered dest
  rw [empty] at settled
  have closed : (view host.cache dest (latch.message chain moniker)).opened = false := by
    simpa [Settled, lastEdge] using settled
  rw [Std.ExtTreeMap.mem_iff_isSome_getElem?]
  exact Bool.eq_false_iff.mp closed

theorem HostInv.drained_run {host : Host} (inv : HostInv config name chain moniker latch host)
    (lowered : host.accepting = true → host.watch.flag latch = false)
    (deliveries : List ((NotifyDest → Instant) × (NotifyDest → Instant) × List NotifyDest)) :
    let later := deliveries.foldl (fun host (reserveAt, completeAt, order) =>
      hostStep config name chain host (.deliver reserveAt completeAt order)) host
    later.queue = [] → ∀ dest, latch.message chain moniker ∉ sent later.cache dest := by
  induction deliveries generalizing host with
  | nil => exact inv.drained config name chain moniker latch lowered
  | cons first rest ih =>
    obtain ⟨reserveAt, completeAt, order⟩ := first
    have kept : (hostStep config name chain host (.deliver reserveAt completeAt order)).watch =
        host.watch ∧ (hostStep config name chain host (.deliver reserveAt completeAt order)).accepting =
        host.accepting := by
      simp only [hostStep]
      cases host.queue <;> exact ⟨rfl, rfl⟩
    apply ih (inv.deliver reserveAt completeAt order)
    rw [kept.1, kept.2]
    exact lowered

theorem mem_of_lastEdge {text : String} {queue : List Emission} {edge : Bool}
    (found : lastEdge text queue = some edge) :
    ∃ emission ∈ queue, emission.message = text ∧ emission.resolved = !edge := by
  obtain ⟨emission, member, kind⟩ := List.mem_map.mp (List.mem_of_getLast? found)
  obtain ⟨listed, own⟩ := List.mem_filter.mp member
  exact ⟨emission, listed, by simpa using own, by simp [← kind]⟩

/-- In every history whose steps meet the condition: after a main-loop tick that sees the
condition of an enabled latched alarm not to hold, a destination that still has the alarm
open has its resolution on the queue, the dashboard does not show it, and once the queue
is delivered no destination has it open, so that a new onset is not suppressed. -/
theorem open_alarm_resolved_when_over (enabled : Enabled chain latch.alarm)
    (apart : TextApart config chain moniker latch) (steps : List HostStep) (elapsed : Nat)
    (reads : Seen)
    (meets : Meeting (hostStep config name chain) (Meets chain moniker latch) {}
      (steps ++ [.tick elapsed reads]))
    (main : (history config name chain steps).watch.waiting = false)
    (found : reads.valInfo.isSome = true)
    (ended : Over chain latch (history config name chain steps).watch
      ((history config name chain steps).sees elapsed reads)) :
    let host := history config name chain (steps ++ [.tick elapsed reads])
    (∀ dest, latch.message chain moniker ∈ sent host.cache dest →
      ∃ resolution ∈ host.queue, resolution.message = latch.message chain moniker ∧
        resolution.resolved = true) ∧
    shownAt host.cache name (latch.message chain moniker) = none ∧
    ∀ deliveries : List ((NotifyDest → Instant) × (NotifyDest → Instant) × List NotifyDest),
      let later := deliveries.foldl (fun host (reserveAt, completeAt, order) =>
        hostStep config name chain host (.deliver reserveAt completeAt order)) host
      later.queue = [] → ∀ dest, latch.message chain moniker ∉ sent later.cache dest := by
  intro host
  have before := history_inv config name chain moniker latch apart steps meets.of_append
  have inv : HostInv config name chain moniker latch host :=
    history_inv config name chain moniker latch apart _ meets
  have lowered : host.accepting = true → host.watch.flag latch = false := by
    intro _
    simp only [host, history, List.foldl_append, List.foldl_cons, List.foldl_nil]
    have order : (history config name chain steps).clock.val ≤
        ((history config name chain steps).clock.after elapsed).val :=
      Int.le_add_of_nonneg_right (Int.natCast_nonneg _)
    exact flag_tick_of_over config chain latch main found enabled order before.stalled ended
  refine ⟨?_, inv.hidden lowered, inv.drained_run config name chain moniker latch lowered⟩
  intro dest held
  rcases inv.settled lowered dest with closing | ⟨-, closed⟩
  · exact mem_of_lastEdge closing
  · rw [Std.ExtTreeMap.mem_iff_isSome_getElem?] at held
    exact absurd held (Bool.eq_false_iff.mp closed)

end History

/-! ## A restart with the alarm open -/

def restartConfig : Config := { pagerduty := { enabled := true } }

def restartChain : ChainConfig :=
  { chainId := "osmosis-1"
    alerts := { consecutiveAlerts := true, consecutiveMissed := 3
                pagerduty := { enabled := true, apiKey := "key" } } }

def missedText : String := "NosNode has missed 3 blocks on osmosis-1"

def missedTick (missed : Nat) : HostStep := .tick 2000000000 (seenWith (some validator) false missed)

def deliverNow : HostStep :=
  .deliver (fun _ => ⟨unixEpoch, Int.le_refl _⟩) (fun _ => ⟨unixEpoch, Int.le_refl _⟩) []

theorem missedText_apart : TextApart restartConfig restartChain "NosNode" .consecutive where
  latches other different := by
    cases other
    case consecutive => exact absurd rfl different
    all_goals decide
  inactive reason known := by
    rcases known with rfl | rfl <;> decide
  nodes := by simp [restartChain]

theorem meets_missedTick (host : Host) (missed : Nat) :
    Meets restartChain "NosNode" .consecutive host (missedTick missed) := by
  have named : Named (some validator) "NosNode" := by
    rintro _ ⟨⟩
    rfl
  exact ⟨fun _ => ⟨named, named⟩, rfl⟩

/-- The alarm is raised and resolved, the process restarts, and the validator signs: nothing
is open and nothing is suppressed. -/
theorem open_alarm_resolved_after_restart :
    shownAt (history restartConfig "osmosis" restartChain
      [missedTick 0, missedTick 3, deliverNow, missedTick 0, deliverNow, .stop, .restart 0,
        missedTick 0, missedTick 0]).cache "osmosis" missedText = none :=
  (open_alarm_resolved_when_over restartConfig "osmosis" restartChain "NosNode" .consecutive rfl
    missedText_apart
    [missedTick 0, missedTick 3, deliverNow, missedTick 0, deliverNow, .stop, .restart 0,
      missedTick 0] _ _
    ⟨meets_missedTick _ _, meets_missedTick _ _, trivial, meets_missedTick _ _, trivial,
      by change _ = false; decide +kernel, trivial, meets_missedTick _ _, meets_missedTick _ _,
      trivial⟩
    (by decide +kernel) rfl (by change (0 : Int) < 3; decide)).2.1

/-- The same with the restart while the alarm is open: the tick that sees the validator
sign emits nothing, and the next onset is suppressed at PagerDuty. -/
theorem restart_leaves_alarm_open :
    let host := history restartConfig "osmosis" restartChain
      [missedTick 0, missedTick 3, deliverNow, .stop, .restart 0, missedTick 0, missedTick 0]
    let onset := hostStep restartConfig "osmosis" restartChain host (missedTick 3)
    missedText ∈ sent host.cache .pd ∧ host.queue = [] ∧
    (shownAt host.cache "osmosis" missedText).isSome = true ∧
    onset.queue = [consecutiveAlert restartChain validator false] ∧
    (deliverAlert onset.cache (emissionDelivery restartConfig "osmosis" restartChain
      (consecutiveAlert restartChain validator false) (fun _ => onset.clock) (fun _ => onset.clock)
      [])).requests .pd = [] := by
  decide +kernel

end Seer.Watch

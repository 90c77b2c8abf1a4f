import Seer.Lib.Machine
import Seer.Dash.Redaction
import Seer.Ws.HideLogs

/-!
# The dashboard server

One goroutine of `Serve` owns the newest line of every chain and the newest log lines. It
keeps the documents that `/state` and `/logs` answer with, and broadcasts to the open
pages. Go ranges over the chains in any order, so that order is part of an event.
-/
namespace Seer.Dash

open Seer.Lib Seer.Ws

/-- What `json.Marshal` makes of the documents; it may fail. -/
structure Json (β : Type) where
  emptyObject : β
  emptyArray : β
  statusUpdate : List ChainStatus → Option β
  logSlice : List LogMessage → Option β
  logLine : LogMessage → Option β

/-- What is broadcast: the state of all chains, or a log line. -/
inductive Frame (β : Type) where
  | update (document : β)
  | log (document : β)
  deriving DecidableEq

def Frame.update? {β : Type} : Frame β → Option β
  | .update document => some document
  | .log _ => none

def Frame.log? {β : Type} : Frame β → Option β
  | .update _ => none
  | .log document => some document

structure Server (β : Type) where
  status : Table String ChainStatus := ∅
  logSlice : List LogMessage := []
  statusCache : β
  logCache : β
  update : Bool := false
  sent : List (Frame β) := []
  deriving DecidableEq

/-- A tick of the second, a line for a chain with the order in which the chains are then
listed, or a log line. -/
inductive Event where
  | tick
  | update (status : ChainStatus) (order : List String)
  | log (line : LogMessage)

def logLength : Nat := 256

/-- A line as it is kept: with hidden logs the endpoints in its error are replaced. -/
def kept (hideLogs : Bool) (status : ChainStatus) : ChainStatus :=
  if hideLogs then { status with lastError := String.ofList (redact status.lastError.toList) }
  else status

/-- `sort.StringsAreSorted` of two names. -/
def inOrder (one two : ChainStatus) : Bool := (compare one.name two.name).isLE

section Serve
variable {β : Type} (json : Json β) (hideLogs : Bool)

def start : Server β where
  statusCache := json.emptyObject
  logCache := json.emptyArray

def Server.tick (server : Server β) : Server β :=
  if server.update then
    { server with sent := server.sent ++ [.update server.statusCache], update := false }
  else server

def Server.receive (server : Server β) (status : ChainStatus) (order : List String) : Server β :=
  let table := server.status.insert status.name (kept hideLogs status)
  let result := (order.filterMap (table[·]?)).mergeSort inOrder
  match json.statusUpdate result with
  | none => { server with status := table }
  | some document => { server with status := table, statusCache := document, update := true }

def Server.log (server : Server β) (line : LogMessage) : Server β :=
  if hideLogs then server
  else
    let logSlice :=
      if server.logSlice.length ≥ logLength then
        line :: server.logSlice.take (server.logSlice.length - 1)
      else line :: server.logSlice
    match json.logSlice logSlice with
    | none => { server with logSlice }
    | some document =>
      let cached := { server with logSlice, logCache := document }
      match json.logLine line with
      | none => cached
      | some frame => { cached with sent := server.sent ++ [.log frame] }

/-- One round of the loop. Every chain is listed once. -/
def serve (server : Server β) : Event → Option (Server β)
  | .tick => some server.tick
  | .update status order =>
    if order.Perm (server.status.insert status.name (kept hideLogs status)).keys then
      some (server.receive json hideLogs status order)
    else none
  | .log line => some (server.log json hideLogs line)

end Serve

/-! ## The listing -/

theorem name_kept (hideLogs : Bool) (status : ChainStatus) :
    (kept hideLogs status).name = status.name := by
  unfold kept
  split <;> rfl

/-- Every line is stored under its own name. -/
def Named (table : Table String ChainStatus) : Prop :=
  ∀ (name : String) status, table[name]? = some status → status.name = name

theorem Named.insert {table : Table String ChainStatus} (named : Named table) (hideLogs : Bool)
    (status : ChainStatus) : Named (table.insert status.name (kept hideLogs status)) := by
  intro name found here
  rw [Table.get_insert] at here
  split at here
  next same =>
    cases here
    rw [name_kept, same]
  · exact named name found here

/-- The lines by name. -/
def listing (table : Table String ChainStatus) : List ChainStatus := table.toList.map Prod.snd

section Listing
variable {table : Table String ChainStatus} (named : Named table)
include named

theorem map_name_listing : (listing table).map ChainStatus.name = table.keys := by
  rw [listing, List.map_map, ← Std.ExtTreeMap.map_fst_toList_eq_keys]
  refine List.map_congr_left fun entry member => ?_
  exact named entry.1 entry.2 (Std.ExtTreeMap.mem_toList_iff_getElem?_eq_some.mp member)

theorem listing_ordered :
    (listing table).Pairwise fun one two => compare one.name two.name = .lt := by
  have ordered : table.keys.Pairwise fun a b => compare a b = .lt := Std.ExtTreeMap.ordered_keys
  rwa [← map_name_listing named, List.pairwise_map] at ordered

theorem mem_listing {status : ChainStatus} :
    status ∈ listing table ↔ table[status.name]? = some status := by
  constructor
  · intro member
    obtain ⟨⟨name, found⟩, listed, same⟩ := List.mem_map.mp member
    cases same
    have here := Std.ExtTreeMap.mem_toList_iff_getElem?_eq_some.mp listed
    rw [named name found here]
    exact here
  · intro here
    exact List.mem_map.mpr ⟨⟨_, status⟩, Std.ExtTreeMap.mem_toList_iff_getElem?_eq_some.mpr here, rfl⟩

/-- Sorting undoes the order in which Go has ranged over the chains. -/
theorem sorted_listing {order : List String} (range : order.Perm table.keys) :
    (order.filterMap (table[·]?)).mergeSort inOrder = listing table := by
  have all : table.keys.filterMap (table[·]?) = listing table := by
    rw [← Std.ExtTreeMap.map_fst_toList_eq_keys, List.filterMap_map, listing, ← List.filterMap_eq_map]
    refine List.filterMap_congr fun entry member => ?_
    exact Std.ExtTreeMap.mem_toList_iff_getElem?_eq_some.mp member
  have same : ((order.filterMap (table[·]?)).mergeSort inOrder).Perm (listing table) :=
    (List.mergeSort_perm _ _).trans (all ▸ range.filterMap _)
  have sorted : ((order.filterMap (table[·]?)).mergeSort inOrder).Pairwise
      fun one two => inOrder one two = true := by
    refine List.pairwise_mergeSort ?_ ?_ _
    · exact fun a b c => Std.TransCmp.isLE_trans
    · intro a b
      simp only [Bool.or_eq_true, inOrder]
      have swapped : compare b.name a.name = (compare a.name b.name).swap := Std.OrientedCmp.eq_swap
      rw [swapped]
      cases compare a.name b.name <;> decide
  refine same.eq_of_pairwise ?_ sorted ?_
  · -- Two lines of one name are the same line.
    intro one two member member' le ge
    have name : one.name = two.name :=
      Std.LawfulEqOrd.eq_of_compare (Std.OrientedCmp.isLE_antisymm le ge)
    have first := (mem_listing named).mp (same.mem_iff.mp member)
    have second := (mem_listing named).mp member'
    rw [name, second] at first
    exact (Option.some.inj first).symm
  · exact (listing_ordered named).imp fun less => by rw [inOrder, less]; rfl

end Listing

section Run
variable {β : Type} {json : Json β} {hideLogs : Bool}

/-- A received line without the order of the chains. -/
def Server.store (json : Json β) (server : Server β) (line : ChainStatus) : Server β :=
  let table := server.status.insert line.name line
  match json.statusUpdate (listing table) with
  | none => { server with status := table }
  | some document => { server with status := table, statusCache := document, update := true }

theorem receive_eq_store {server : Server β} (named : Named server.status) {status : ChainStatus}
    {order : List String}
    (range : order.Perm (server.status.insert status.name (kept hideLogs status)).keys) :
    server.receive json hideLogs status order = server.store json (kept hideLogs status) := by
  have listed := sorted_listing (named.insert hideLogs status) range
  simp only [Server.receive, Server.store, name_kept, listed]

theorem status_tick (server : Server β) : server.tick.status = server.status := by
  unfold Server.tick
  split <;> rfl

theorem status_store (server : Server β) (line : ChainStatus) :
    (server.store json line).status = server.status.insert line.name line := by
  unfold Server.store
  dsimp only
  split <;> rfl

theorem status_log (server : Server β) (line : LogMessage) :
    (server.log json hideLogs line).status = server.status := by
  unfold Server.log
  dsimp only
  repeat' split
  all_goals rfl

/-- What one round does, with the order of the chains forgotten. -/
inductive Server.Moves (json : Json β) (hideLogs : Bool) (server : Server β) : Event → Server β → Prop
  | tick : Moves json hideLogs server .tick server.tick
  | update (status : ChainStatus) (order : List String) :
      Moves json hideLogs server (.update status order) (server.store json (kept hideLogs status))
  | log (line : LogMessage) : Moves json hideLogs server (.log line) (server.log json hideLogs line)

theorem moves_of_serve {server after : Server β} {event : Event} (named : Named server.status)
    (serves : serve json hideLogs server event = some after) :
    server.Moves json hideLogs event after := by
  cases event with
  | tick =>
    cases serves
    exact .tick
  | update status order =>
    obtain ⟨range, same⟩ := Option.ite_none_right_eq_some.mp serves
    cases same
    rw [receive_eq_store named range]
    exact .update status order
  | log line =>
    cases serves
    exact .log line

theorem Server.Moves.named {server after : Server β} {event : Event} (named : Named server.status)
    (moves : server.Moves json hideLogs event after) : Named after.status := by
  cases moves with
  | tick =>
    rw [status_tick]
    exact named
  | update status order =>
    rw [status_store, name_kept]
    exact named.insert hideLogs status
  | log line =>
    rw [status_log]
    exact named

end Run

/-! ## What the pages are shown -/

section Shown
variable {β : Type} {json : Json β} {hideLogs : Bool}

/-- The lines that were received, as they are kept. -/
def lines (hideLogs : Bool) (events : List Event) : List ChainStatus :=
  events.filterMap fun
    | .update status _ => some (kept hideLogs status)
    | _ => none

/-- The last of them for a chain. -/
def newest (hideLogs : Bool) (events : List Event) (name : String) : Option ChainStatus :=
  ((lines hideLogs events).filter (·.name = name)).getLast?

def logLines (events : List Event) : List LogMessage :=
  events.filterMap fun
    | .log line => some line
    | _ => none

/-- The frames with the state of the chains, oldest first. -/
def Server.updates (server : Server β) : List β := server.sent.filterMap Frame.update?

def Server.logFrames (server : Server β) : List β := server.sent.filterMap Frame.log?

/-- What the answers and the broadcasts of a server are, by the events it has met. -/
structure Shows (json : Json β) (hideLogs : Bool) (events : List Event) (server : Server β) : Prop where
  /-- `/state` has the last line of every chain, by name. -/
  state : ∃ shown : List ChainStatus,
    (shown.Pairwise fun one two => compare one.name two.name = .lt) ∧
    (∀ status, status ∈ shown ↔ newest hideLogs events status.name = some status) ∧
    some server.statusCache =
      if shown.isEmpty then some json.emptyObject else json.statusUpdate shown
  /-- `/logs` has the last 256 lines, the newest first. -/
  logs : some server.logCache =
    if hideLogs || (logLines events).isEmpty then some json.emptyArray
    else json.logSlice ((logLines events).reverse.take logLength)
  logFrames : server.logFrames.map some = if hideLogs then [] else (logLines events).map json.logLine
  /-- After a tick the pages have been sent what `/state` has. -/
  ticked : events.getLast? = some .tick →
    server.updates.getLast? =
      if (lines hideLogs events).isEmpty then none else some server.statusCache

/-- Every document can be encoded. -/
structure Json.Total (json : Json β) : Prop where
  statusUpdate : ∀ shown, (json.statusUpdate shown).isSome
  logSlice : ∀ logs, (json.logSlice logs).isSome
  logLine : ∀ line, (json.logLine line).isSome

structure ServerInv (json : Json β) (hideLogs : Bool) (events : List Event) (server : Server β) :
    Prop where
  named : Named server.status
  status : ∀ name : String, server.status[name]? = newest hideLogs events name
  cache : some server.statusCache =
    if (lines hideLogs events).isEmpty then some json.emptyObject
    else json.statusUpdate (listing server.status)
  logSlice : server.logSlice =
    if hideLogs then [] else (logLines events).reverse.take logLength
  logCache : some server.logCache =
    if hideLogs || (logLines events).isEmpty then some json.emptyArray
    else json.logSlice server.logSlice
  logFrames : server.logFrames.map some = if hideLogs then [] else (logLines events).map json.logLine
  /-- The pages lag behind only while a tick is due. -/
  updates : server.update = false → server.updates.getLast? =
    if (lines hideLogs events).isEmpty then none else some server.statusCache
  waiting : server.update = true → lines hideLogs events ≠ []
  ticked : events.getLast? = some .tick → server.update = false

section Lists
variable (events : List Event)

@[simp] theorem lines_tick : lines hideLogs (events ++ [.tick]) = lines hideLogs events := by
  simp [lines]

@[simp] theorem lines_log (line : LogMessage) :
    lines hideLogs (events ++ [.log line]) = lines hideLogs events := by
  simp [lines]

@[simp] theorem lines_update (status : ChainStatus) (order : List String) :
    lines hideLogs (events ++ [.update status order]) = lines hideLogs events ++ [kept hideLogs status] := by
  simp [lines]

@[simp] theorem logLines_tick : logLines (events ++ [.tick]) = logLines events := by
  simp [logLines]

@[simp] theorem logLines_update (status : ChainStatus) (order : List String) :
    logLines (events ++ [.update status order]) = logLines events := by
  simp [logLines]

@[simp] theorem logLines_log (line : LogMessage) :
    logLines (events ++ [.log line]) = logLines events ++ [line] := by
  simp [logLines]

theorem newest_of_lines {earlier later : List Event} (same : lines hideLogs earlier = lines hideLogs later)
    (name : String) : newest hideLogs earlier name = newest hideLogs later name := by
  rw [newest, newest, same]

theorem newest_update (status : ChainStatus) (order : List String) (name : String) :
    newest hideLogs (events ++ [.update status order]) name =
      if status.name = name then some (kept hideLogs status) else newest hideLogs events name := by
  rw [newest, lines_update, List.filter_append, List.filter_singleton, name_kept]
  by_cases same : status.name = name
  · simp [same]
  · simp [same, newest]

end Lists

/-- The newest log lines, with the oldest dropped where the slice is full. -/
theorem take_log (line : LogMessage) (logs : List LogMessage) :
    (if (logs.take logLength).length ≥ logLength then
        line :: (logs.take logLength).take ((logs.take logLength).length - 1)
      else line :: logs.take logLength) = (line :: logs).take logLength := by
  simp only [List.length_take, List.take_take]
  split
  next full =>
    have all : min logLength logs.length = logLength := by omega
    rw [all]
    simp [logLength]
  next room =>
    have few : logs.length < logLength := by omega
    rw [List.take_of_length_le (by omega), List.take_of_length_le (by simp; omega)]

theorem ServerInv.start : ServerInv json hideLogs [] (start json) where
  named := by simp [Named, Dash.start]
  status := by simp [Dash.start, newest, lines]
  cache := rfl
  logSlice := by simp [Dash.start, logLines]
  logCache := by simp [Dash.start, logLines]
  logFrames := by simp [Dash.start, Server.logFrames, logLines]
  updates := fun _ => rfl
  waiting := nofun
  ticked := nofun

section Steps
variable {events : List Event} {server : Server β}

theorem ServerInv.tick (inv : ServerInv json hideLogs events server) :
    ServerInv json hideLogs (events ++ [.tick]) server.tick := by
  have status : ∀ name : String, server.status[name]? = newest hideLogs (events ++ [.tick]) name :=
    fun name => (inv.status name).trans (newest_of_lines (by simp) name)
  unfold Server.tick
  split
  next due =>
    -- What is sent is what `/state` has.
    have met := inv.waiting due
    exact
      { named := inv.named
        status := status
        cache := by simpa using inv.cache
        logSlice := by simpa using inv.logSlice
        logCache := by simpa using inv.logCache
        logFrames := by simpa [Server.logFrames, List.filterMap_cons, Frame.log?] using inv.logFrames
        updates := by simp [Server.updates, Frame.update?, met]
        waiting := by simp
        ticked := by simp }
  next quiet =>
    have idle : server.update = false := Bool.eq_false_iff.mpr quiet
    exact
      { named := inv.named
        status := status
        cache := by simpa using inv.cache
        logSlice := by simpa using inv.logSlice
        logCache := by simpa using inv.logCache
        logFrames := by simpa using inv.logFrames
        updates := by simpa using inv.updates
        waiting := by simpa using inv.waiting
        ticked := fun _ => idle }

theorem ServerInv.store (total : json.Total) (inv : ServerInv json hideLogs events server)
    (status : ChainStatus) (order : List String) :
    ServerInv json hideLogs (events ++ [.update status order])
      (server.store json (kept hideLogs status)) := by
  obtain ⟨document, encoded⟩ := Option.isSome_iff_exists.mp
    (total.statusUpdate (listing (server.status.insert status.name (kept hideLogs status))))
  simp only [Server.store, name_kept, encoded]
  exact
    { named := inv.named.insert hideLogs status
      status := fun name => by rw [Table.get_insert, newest_update, inv.status]
      cache := by simp [encoded]
      logSlice := by simpa using inv.logSlice
      logCache := by simpa using inv.logCache
      logFrames := by simpa [Server.logFrames] using inv.logFrames
      updates := nofun
      waiting := by simp
      ticked := by simp }

theorem ServerInv.log (total : json.Total) (inv : ServerInv json hideLogs events server)
    (line : LogMessage) :
    ServerInv json hideLogs (events ++ [.log line]) (server.log json hideLogs line) := by
  have status : ∀ name : String, server.status[name]? = newest hideLogs (events ++ [.log line]) name :=
    fun name => (inv.status name).trans (newest_of_lines (by simp) name)
  unfold Server.log
  cases hideLogs with
  | true =>
    exact
      { named := inv.named
        status := status
        cache := by simpa using inv.cache
        logSlice := by simpa using inv.logSlice
        logCache := by simpa using inv.logCache
        logFrames := by simpa using inv.logFrames
        updates := by simpa using inv.updates
        waiting := by simpa using inv.waiting
        ticked := by simp }
  | false =>
    have slice : server.logSlice = (logLines events).reverse.take logLength := by
      simpa using inv.logSlice
    rw [slice]
    simp only [take_log, Bool.false_eq_true, if_false]
    obtain ⟨document, encoded⟩ := Option.isSome_iff_exists.mp
      (total.logSlice ((line :: (logLines events).reverse).take logLength))
    obtain ⟨frame, framed⟩ := Option.isSome_iff_exists.mp (total.logLine line)
    rw [encoded, framed]
    exact
      { named := inv.named
        status := status
        cache := by simpa using inv.cache
        logSlice := by simp
        logCache := by simp [encoded]
        logFrames := by
          have frames := inv.logFrames
          simp only [Server.logFrames, Bool.false_eq_true, if_false] at frames
          simp [Server.logFrames, Frame.log?, frames, framed]
        updates := by simpa [Server.updates, Frame.update?] using inv.updates
        waiting := by simpa using inv.waiting
        ticked := by simp }

theorem ServerInv.moves (total : json.Total) {event : Event} {after : Server β}
    (inv : ServerInv json hideLogs events server) (moves : server.Moves json hideLogs event after) :
    ServerInv json hideLogs (events ++ [event]) after := by
  cases moves with
  | tick => exact inv.tick
  | update status order => exact inv.store total status order
  | log line => exact inv.log total line

/-- Nothing is listed only where nothing was received. -/
theorem ServerInv.isEmpty_lines (inv : ServerInv json hideLogs events server) :
    (lines hideLogs events).isEmpty = (listing server.status).isEmpty := by
  rw [Bool.eq_iff_iff, List.isEmpty_iff, List.isEmpty_iff]
  constructor
  · intro none
    refine List.eq_nil_iff_forall_not_mem.mpr fun status member => ?_
    rw [mem_listing inv.named, inv.status, newest, none] at member
    cases member
  · intro none
    refine List.eq_nil_iff_forall_not_mem.mpr fun status member => ?_
    -- The last line of this chain would be listed.
    have received : ((lines hideLogs events).filter (·.name = status.name)) ≠ [] :=
      List.ne_nil_of_mem (List.mem_filter.mpr ⟨member, decide_eq_true rfl⟩)
    have found : newest hideLogs events status.name = some (List.getLast _ received) :=
      List.getLast?_eq_some_getLast received
    rw [← inv.status] at found
    have listed := (mem_listing inv.named).mpr (by rw [inv.named _ _ found]; exact found)
    rw [none] at listed
    cases listed

end Steps

/-- Whatever the chains and the log send and in whichever order Go ranges over its map: `/state`
answers with the last line of every chain by name, `/logs` with the last 256 log lines, each log
line is broadcast once, and after every tick the pages have what `/state` has. With hidden logs
no log line leaves the server and the lines are redacted. -/
theorem dashboard_shows_newest (total : json.Total) {events : List Event} {server : Server β}
    (runs : Machine.run (serve json hideLogs) (start json) events = some server) :
    Shows json hideLogs events server := by
  have inv : ServerInv json hideLogs ([] ++ events) server :=
    Machine.run_history
      (fun _ _ _ _ inv serves => inv.moves total (moves_of_serve inv.named serves)) runs .start
  rw [List.nil_append] at inv
  refine ⟨⟨listing server.status, listing_ordered inv.named, fun status => ?_, ?_⟩, ?_, inv.logFrames, ?_⟩
  · rw [mem_listing inv.named, inv.status]
  · rw [← inv.isEmpty_lines]
    exact inv.cache
  · have cached := inv.logCache
    rw [inv.logSlice] at cached
    cases hideLogs <;> exact cached
  · intro last
    exact inv.updates (inv.ticked last)

end Shown

/-- The documents as they are. -/
def plainJson : Json (List ChainStatus ⊕ List LogMessage) where
  emptyObject := .inl []
  emptyArray := .inr []
  statusUpdate := fun shown => some (.inl shown)
  logSlice := fun logs => some (.inr logs)
  logLine := fun line => some (.inr [line])

def lineOf (name lastError : String) : ChainStatus where
  name := name
  chainId := ""
  moniker := ""
  bonded := true
  jailed := false
  tombstoned := false
  missed := 0
  window := 100
  nodes := 1
  lastError := lastError
  blocks := []

theorem plainJson_total : plainJson.Total := ⟨fun _ => rfl, fun _ => rfl, fun _ => rfl⟩

/-- Two chains, listed by Go in one order and the other, with a log line between. -/
theorem dashboard_shows_newest_two_chains :
    Shows plainJson true
      [.update (lineOf "osmosis" " http://10.0.0.1") ["osmosis"],
        .log { ts := 1, msg := "http://10.0.0.1 is down" },
        .update (lineOf "juno" "") ["osmosis", "juno"], .update (lineOf "osmosis" "") ["juno", "osmosis"],
        .tick]
      (((((start plainJson).receive plainJson true (lineOf "osmosis" " http://10.0.0.1") ["osmosis"]).log
        plainJson true { ts := 1, msg := "http://10.0.0.1 is down" }).receive plainJson true
          (lineOf "juno" "") ["osmosis", "juno"]).receive plainJson true
            (lineOf "osmosis" "") ["juno", "osmosis"]).tick :=
  dashboard_shows_newest plainJson_total rfl

/-! ## Hidden logs -/

/-- Error texts that differ in endpoints only. -/
inductive SameText : List Char → List Char → Prop
  | refl (text : List Char) : SameText text text
  | endpoint {c : Char} (separator : isWord c = false) {rest : List Char} (idle : lastWord rest = none)
      (before : List Char) (one two : Endpoint) :
      SameText (before ++ c :: one.text rest) (before ++ c :: two.text rest)
  | trans {first second third : List Char} (one : SameText first second) (two : SameText second third) :
      SameText first third

theorem SameText.redact_eq {first second : List Char} (same : SameText first second) :
    redact first = redact second := by
  induction same with
  | refl text => rfl
  | endpoint separator idle before one two =>
    rw [redact_eq_replaceAll, redact_eq_replaceAll]
    exact replaceAll_alike separator idle before one two
  | trans _ _ one two => exact one.trans two

structure SameLine (one two : ChainStatus) : Prop where
  others : { one with lastError := "" } = { two with lastError := "" }
  text : SameText one.lastError.toList two.lastError.toList

theorem SameLine.kept_eq {one two : ChainStatus} (same : SameLine one two) :
    kept true one = kept true two := by
  have fields := same.others
  simp only [ChainStatus.mk.injEq] at fields
  simp only [kept, if_true, ChainStatus.mk.injEq, same.text.redact_eq]
  simpa using fields

/-- The same ticks and lines, but for endpoints in error texts; Go may range over the chains in
different orders, and any log lines may come in between. -/
inductive SameEvents : List Event → List Event → Prop
  | done : SameEvents [] []
  | tick {one two : List Event} (later : SameEvents one two) : SameEvents (.tick :: one) (.tick :: two)
  | update {status status' : ChainStatus} (same : SameLine status status') (order order' : List String)
      {one two : List Event} (later : SameEvents one two) :
      SameEvents (.update status order :: one) (.update status' order' :: two)
  | onlyLeft (line : LogMessage) {one two : List Event} (later : SameEvents one two) :
      SameEvents (.log line :: one) two
  | onlyRight (line : LogMessage) {one two : List Event} (later : SameEvents one two) :
      SameEvents one (.log line :: two)

section Hidden
variable {β : Type} {json : Json β} {server left right : Server β} {one two : List Event}

theorem SameEvents.run_eq (same : SameEvents one two) (named : Named server.status)
    (runs : Machine.run (serve json true) server one = some left)
    (runs' : Machine.run (serve json true) server two = some right) : left = right := by
  induction same generalizing server with
  | done =>
    cases runs
    cases runs'
    rfl
  | tick later ih =>
    refine ih ?_ runs runs'
    rw [status_tick]
    exact named
  | @update status status' same order order' one two later ih =>
    obtain ⟨after, first, others⟩ := Machine.run_cons.mp runs
    obtain ⟨after', first', others'⟩ := Machine.run_cons.mp runs'
    have kept := (moves_of_serve named first).named named
    cases moves_of_serve named first
    cases moves_of_serve named first'
    rw [← same.kept_eq] at others'
    exact ih kept others others'
  | onlyLeft line later ih => exact ih named runs runs'
  | onlyRight line later ih => exact ih named runs runs'

/-- With hidden logs the server ends in the same state, with the same answers and the same
broadcasts, whatever endpoints stand in the error texts and whatever is logged. -/
theorem hidden_dashboard_noninterference (same : SameEvents one two)
    (runs : Machine.run (serve json true) (start json) one = some left)
    (runs' : Machine.run (serve json true) (start json) two = some right) : left = right :=
  same.run_eq (by simp [Named, start]) runs runs'

end Hidden

/-- One endpoint or another, one order of the chains or the other, with a log line or without. -/
theorem hidden_dashboard_noninterference_endpoint :
    (((start plainJson).receive plainJson true (lineOf "juno" "") ["juno"]).receive plainJson true
        (lineOf "osmosis" "at http://10.0.0.1") ["juno", "osmosis"]).tick =
      (((start plainJson).receive plainJson true (lineOf "juno" "") ["juno"]).receive plainJson true
        (lineOf "osmosis" "at wss://rpc.osmosis") ["osmosis", "juno"]).tick := by
  have text : SameText "at http://10.0.0.1".toList "at wss://rpc.osmosis".toList :=
    .endpoint (c := ' ') (by decide) (by decide) "at".toList
      { start := "http://".toList, listed := by decide, secret := "10.0.0.".toList, last := '1'
        oneLine := by decide, long := by decide, ends := by decide }
      { start := "wss://".toList, listed := by decide, secret := "rpc.osmosi".toList, last := 's'
        oneLine := by decide, long := by decide, ends := by decide }
  have line : SameLine (lineOf "osmosis" "at http://10.0.0.1") (lineOf "osmosis" "at wss://rpc.osmosis") :=
    ⟨rfl, text⟩
  have same : SameEvents
      [.update (lineOf "juno" "") ["juno"],
        .update (lineOf "osmosis" "at http://10.0.0.1") ["juno", "osmosis"],
        .log { ts := 1, msg := "http://10.0.0.1 is down" }, .tick]
      [.update (lineOf "juno" "") ["juno"],
        .update (lineOf "osmosis" "at wss://rpc.osmosis") ["osmosis", "juno"], .tick] :=
    .update ⟨rfl, .refl _⟩ _ _ (.update line _ _ (.onlyLeft _ (.tick .done)))
  exact @hidden_dashboard_noninterference _ plainJson _ _ _ _ same rfl rfl

end Seer.Dash

import Mathlib.Data.Finset.Basic
import Mathlib.Data.List.TakeWhile
import Statora.Library.Channel

/-!
# The WebSocket hub

The loop of `Hub.Run` receives one message at a time, and ranges over its
clients for each broadcast, in an order that the language leaves open. Between
any two of its steps the write pump of a client may take a message from the
client's channel. A closed or overfull channel is where the loop could panic, so
that a step is partial.
-/

namespace Statora.WebSocket
open Library (Channel)

/-- `ranging` holds the broadcast that the loop is handing out and the clients that it
has still to visit. -/
structure Hub (Client Message : Type) where
  clients : Finset Client
  channels : Client → Channel Message
  ranging : Option (Message × Finset Client)

/-- `visit` is one turn of the range over the clients, `take` a receive of the write
pump; the other three are the cases of the loop's select. -/
inductive Event (Client Message : Type)
  | register (client : Client)
  | unregister (client : Client)
  | broadcast (message : Message)
  | visit (client : Client)
  | take (client : Client)
  deriving DecidableEq, Repr

variable {Client Message : Type} [DecidableEq Client]

/-- `NewHub`, with the channel that each client will bring. `ServeWs` makes them with a
capacity of 256; the results hold for any. -/
def newHub (capacity : Client → ℕ) : Hub Client Message where
  clients := ∅
  channels client := .make (capacity client)
  ranging := none

namespace Hub

def rangeOver (message : Message) (rest : Finset Client) : Option (Message × Finset Client) :=
  if rest = ∅ then none else some (message, rest)

def setChannel (hub : Hub Client Message) (client : Client) (ch : Channel Message) :
    Hub Client Message :=
  { hub with channels := Function.update hub.channels client ch }

@[simp] theorem setChannel_clients (hub : Hub Client Message) (client : Client)
    (ch : Channel Message) : (hub.setChannel client ch).clients = hub.clients := rfl

@[simp] theorem setChannel_ranging (hub : Hub Client Message) (client : Client)
    (ch : Channel Message) : (hub.setChannel client ch).ranging = hub.ranging := rfl

def drop (hub : Hub Client Message) (client : Client) : Option (Hub Client Message) :=
  (hub.channels client).close.map fun ch =>
    { hub.setChannel client ch with clients := hub.clients.erase client }

def visit (hub : Hub Client Message) (client : Client) (message : Message) :
    Option (Hub Client Message) :=
  ((hub.channels client).trySend message).bind fun sent =>
    match sent with
    | some ch => some (hub.setChannel client ch)
    | none => hub.drop client

def step (hub : Hub Client Message) : Event Client Message → Option (Hub Client Message)
  | .register client => some { hub with clients := insert client hub.clients }
  | .unregister client => if client ∈ hub.clients then hub.drop client else some hub
  | .broadcast message => some { hub with ranging := rangeOver message hub.clients }
  | .visit client =>
    match hub.ranging with
    | none => some hub
    | some (message, rest) =>
      (hub.visit client message).map fun after =>
        { after with ranging := rangeOver message (rest.erase client) }
  | .take client => some (hub.setChannel client (hub.channels client).receive)

def Enabled (hub : Hub Client Message) : Event Client Message → Prop
  | .register _ | .unregister _ | .broadcast _ => hub.ranging = none
  | .visit client => ∃ message rest, hub.ranging = some (message, rest) ∧ client ∈ rest
  | .take _ => True

end Hub

inductive Reaches (capacity : Client → ℕ) :
    List (Event Client Message) → Hub Client Message → Prop
  | start : Reaches capacity [] (newHub capacity)
  | next {events : List (Event Client Message)} {hub after : Hub Client Message}
      {e : Event Client Message} (before : Reaches capacity events hub) (enabled : hub.Enabled e)
      (hstep : hub.step e = some after) : Reaches capacity (events ++ [e]) after

def Event.registers : Event Client Message → Option Client
  | .register client => some client
  | _ => none

def Event.message : Event Client Message → Option Message
  | .broadcast message => some message
  | _ => none

def registrations (events : List (Event Client Message)) : List Client :=
  events.filterMap Event.registers

/-- The broadcasts that the loop has received since it registered the client. -/
def broadcastsSince (client : Client) (events : List (Event Client Message)) : List Message :=
  (events.dropWhile fun e => e.registers ≠ some client).filterMap Event.message

section History
variable {client : Client} {events : List (Event Client Message)} {e : Event Client Message}

omit [DecidableEq Client] in
theorem mem_registrations_snoc :
    client ∈ registrations (events ++ [e]) ↔
      client ∈ registrations events ∨ e.registers = some client := by
  simp [registrations]

theorem dropWhile_eq_nil (h : client ∉ registrations events) :
    events.dropWhile (fun e => e.registers ≠ some client) = [] := by
  rw [List.dropWhile_eq_nil_iff]
  intro e he
  refine decide_eq_true fun hregisters => h ?_
  exact List.mem_filterMap.mpr ⟨e, he, hregisters⟩

theorem broadcastsSince_of_not_mem (h : client ∉ registrations events) :
    broadcastsSince client events = [] := by
  rw [broadcastsSince, dropWhile_eq_nil h]
  rfl

theorem broadcastsSince_snoc (h : client ∈ registrations events) :
    broadcastsSince client (events ++ [e]) =
      broadcastsSince client events ++ e.message.toList := by
  obtain ⟨r, hr, hregisters⟩ := List.mem_filterMap.mp h
  have hne : events.dropWhile (fun e => e.registers ≠ some client) ≠ [] := by
    rw [ne_eq, List.dropWhile_eq_nil_iff]
    intro hall
    exact of_decide_eq_true (hall r hr) hregisters
  simp only [broadcastsSince]
  rw [List.dropWhile_append, if_neg (by simpa using hne), List.filterMap_append]
  cases hmessage : e.message <;> simp [hmessage]

theorem broadcastsSince_register (h : client ∉ registrations events) :
    broadcastsSince client (events ++ [.register client]) = [] := by
  rw [broadcastsSince, List.dropWhile_append, dropWhile_eq_nil h]
  simp [Event.registers, Event.message]

end History

/-- The broadcast that the loop has still to hand to the client. -/
def owed (ranging : Option (Message × Finset Client)) (client : Client) : List Message :=
  match ranging with
  | none => []
  | some (message, rest) => if client ∈ rest then [message] else []

structure Delivers (events : List (Event Client Message)) (hub : Hub Client Message) : Prop where
  clients : ∀ client, client ∈ hub.clients ↔
    client ∈ registrations events ∧ (hub.channels client).closed = false
  fresh : ∀ client, client ∉ registrations events → (hub.channels client).closed = false
  visits : ∀ message rest, hub.ranging = some (message, rest) → rest ⊆ hub.clients
  delivered : ∀ client ∈ hub.clients,
    (hub.channels client).sent ++ owed hub.ranging client = broadcastsSince client events
  segment : ∀ client, (hub.channels client).sent <+: broadcastsSince client events

theorem owed_rangeOver (message : Message) (rest : Finset Client) (client : Client) :
    owed (Hub.rangeOver message rest) client = if client ∈ rest then [message] else [] := by
  simp only [Hub.rangeOver]
  by_cases hrest : rest = ∅
  · simp [hrest, owed]
  · rw [if_neg hrest, owed]

theorem rangeOver_eq_some {message message' : Message} {rest rest' : Finset Client}
    (h : Hub.rangeOver message rest = some (message', rest')) : rest' = rest := by
  simp only [Hub.rangeOver] at h
  split_ifs at h
  exact (congrArg Prod.snd (Option.some.inj h)).symm

section Steps
variable {events : List (Event Client Message)} {hub : Hub Client Message} {client : Client}
  {message : Message} {rest : Finset Client}

theorem delivers_newHub (capacity : Client → ℕ) :
    Delivers ([] : List (Event Client Message)) (newHub capacity) := by
  constructor <;> simp [newHub, registrations, broadcastsSince]

theorem Delivers.silent {e : Event Client Message} (h : Delivers events hub)
    (hregisters : e.registers = none) (hmessage : e.message = none) :
    Delivers (events ++ [e]) hub := by
  have hsame : registrations (events ++ [e]) = registrations events := by
    simp [registrations, hregisters]
  have hsince : ∀ client,
      broadcastsSince client (events ++ [e]) = broadcastsSince client events := by
    intro client
    by_cases hclient : client ∈ registrations events
    · rw [broadcastsSince_snoc hclient, hmessage, Option.toList_none, List.append_nil]
    · rw [broadcastsSince_of_not_mem hclient, broadcastsSince_of_not_mem (hsame ▸ hclient)]
  constructor
  · simpa only [hsame] using h.clients
  · simpa only [hsame] using h.fresh
  · exact h.visits
  · simpa only [hsince] using h.delivered
  · simpa only [hsince] using h.segment

theorem Delivers.register (h : Delivers events hub) (hselect : hub.ranging = none)
    (hnew : client ∉ registrations events) :
    Delivers (events ++ [.register client]) { hub with clients := insert client hub.clients } := by
  have hsince : ∀ other ≠ client, broadcastsSince other (events ++ [.register client]) =
      broadcastsSince other events := by
    intro other hother
    by_cases hmem : other ∈ registrations events
    · rw [broadcastsSince_snoc hmem]
      exact List.append_nil _
    · have hmem' : other ∉ registrations (events ++ [.register client]) := by
        rw [mem_registrations_snoc, not_or]
        exact ⟨hmem, fun heq => hother (Option.some.inj heq).symm⟩
      rw [broadcastsSince_of_not_mem hmem, broadcastsSince_of_not_mem hmem']
  have hempty : (hub.channels client).sent = [] := by
    have hprefix := h.segment client
    rw [broadcastsSince_of_not_mem hnew] at hprefix
    exact List.prefix_nil.mp hprefix
  constructor
  · intro other
    dsimp only
    rw [Finset.mem_insert, mem_registrations_snoc, h.clients other]
    by_cases hother : other = client
    · subst hother
      simp [Event.registers, h.fresh other hnew]
    · simp [Event.registers, hother, Ne.symm hother]
  · intro other hother
    rw [mem_registrations_snoc, not_or] at hother
    exact h.fresh other hother.1
  · intro message rest hranging
    rw [hselect] at hranging
    cases hranging
  · intro other hmem
    by_cases hother : other = client
    · subst hother
      rw [broadcastsSince_register hnew, hempty, hselect]
      rfl
    · rw [hsince other hother]
      exact h.delivered other ((Finset.mem_insert.mp hmem).resolve_left hother)
  · intro other
    by_cases hother : other = client
    · subst hother
      rw [broadcastsSince_register hnew, hempty]
    · rw [hsince other hother]
      exact h.segment other

theorem Delivers.broadcast (h : Delivers events hub) (hselect : hub.ranging = none) :
    Delivers (events ++ [.broadcast message])
      { hub with ranging := Hub.rangeOver message hub.clients } := by
  have hsame : registrations (events ++ [.broadcast message]) = registrations events := by
    simp [registrations, Event.registers]
  constructor
  · simpa only [hsame] using h.clients
  · simpa only [hsame] using h.fresh
  · intro message' rest hranging
    rw [rangeOver_eq_some hranging]
  · intro client hclient
    have hregistered := ((h.clients client).mp hclient).1
    have hbefore := h.delivered client hclient
    rw [hselect, owed, List.append_nil] at hbefore
    rw [broadcastsSince_snoc hregistered, owed_rangeOver, if_pos hclient, hbefore]
    rfl
  · intro client
    by_cases hregistered : client ∈ registrations events
    · rw [broadcastsSince_snoc hregistered]
      exact (h.segment client).trans (List.prefix_append _ _)
    · have hprefix := h.segment client
      rwa [broadcastsSince_of_not_mem (hsame ▸ hregistered),
        ← broadcastsSince_of_not_mem hregistered]

theorem Delivers.take (h : Delivers events hub) (client : Client) :
    Delivers events (hub.setChannel client (hub.channels client).receive) := by
  have hsent : ∀ other, ((hub.setChannel client (hub.channels client).receive).channels
      other).sent = (hub.channels other).sent := by
    intro other
    by_cases hother : other = client
    · subst hother
      simp [Hub.setChannel]
    · simp [Hub.setChannel, hother]
  have hclosed : ∀ other, ((hub.setChannel client (hub.channels client).receive).channels
      other).closed = (hub.channels other).closed := by
    intro other
    by_cases hother : other = client
    · subst hother
      simp [Hub.setChannel]
    · simp [Hub.setChannel, hother]
  constructor
  · simpa only [hclosed, Hub.setChannel_clients] using h.clients
  · simpa only [hclosed] using h.fresh
  · exact h.visits
  · simpa only [hsent, Hub.setChannel_clients, Hub.setChannel_ranging] using h.delivered
  · simpa only [hsent] using h.segment

theorem Delivers.dropped (h : Delivers events hub) (hclient : client ∈ hub.clients)
    {ranging : Option (Message × Finset Client)}
    (hvisits : ∀ message rest, ranging = some (message, rest) → rest ⊆ hub.clients.erase client)
    (howed : ∀ other ≠ client, owed ranging other = owed hub.ranging other) :
    Delivers events ⟨hub.clients.erase client,
      Function.update hub.channels client { hub.channels client with closed := true },
      ranging⟩ := by
  constructor
  · intro other
    by_cases hother : other = client
    · subst hother
      simp
    · simp [hother, h.clients other]
  · intro other hfresh
    have hother : other ≠ client := fun heq => hfresh (heq ▸ ((h.clients client).mp hclient).1)
    dsimp only
    rw [Function.update_of_ne hother]
    exact h.fresh other hfresh
  · exact hvisits
  · intro other hmem
    obtain ⟨hother, hmem⟩ := Finset.mem_erase.mp hmem
    dsimp only
    rw [Function.update_of_ne hother, howed other hother]
    exact h.delivered other hmem
  · intro other
    dsimp only
    by_cases hother : other = client
    · subst hother
      rw [Function.update_self]
      exact h.segment other
    · rw [Function.update_of_ne hother]
      exact h.segment other

theorem Delivers.handed (h : Delivers events hub) (hranging : hub.ranging = some (message, rest))
    (hclient : client ∈ rest) {ch : Channel Message}
    (hsent : ch.sent = (hub.channels client).sent ++ [message]) (hopen : ch.closed = false) :
    Delivers events ⟨hub.clients, Function.update hub.channels client ch,
      Hub.rangeOver message (rest.erase client)⟩ := by
  have hmem := h.visits message rest hranging hclient
  have hall : ch.sent = broadcastsSince client events := by
    have hbefore := h.delivered client hmem
    rw [hranging, owed, if_pos hclient] at hbefore
    rw [hsent, hbefore]
  constructor
  · intro other
    by_cases hother : other = client
    · subst hother
      simp [hopen, hmem, ((h.clients other).mp hmem).1]
    · simp [hother, h.clients other]
  · intro other hfresh
    dsimp only
    by_cases hother : other = client
    · subst hother
      rw [Function.update_self]
      exact hopen
    · rw [Function.update_of_ne hother]
      exact h.fresh other hfresh
  · intro message' rest' hnext
    rw [rangeOver_eq_some hnext]
    exact (Finset.erase_subset client rest).trans (h.visits message rest hranging)
  · intro other hother'
    dsimp only
    rw [owed_rangeOver]
    by_cases hother : other = client
    · subst hother
      simp [hall]
    · have hbefore := h.delivered other hother'
      rw [hranging, owed] at hbefore
      simpa [hother] using hbefore
  · intro other
    dsimp only
    by_cases hother : other = client
    · subst hother
      rw [Function.update_self, hall]
    · rw [Function.update_of_ne hother]
      exact h.segment other

end Steps

section Runs
variable {capacity : Client → ℕ} {events : List (Event Client Message)}
  {hub after : Hub Client Message} {client : Client}

theorem drop_eq (h : Delivers events hub) (hclient : client ∈ hub.clients) :
    hub.drop client = some ⟨hub.clients.erase client,
      Function.update hub.channels client { hub.channels client with closed := true },
      hub.ranging⟩ := by
  rw [Hub.drop, Channel.close_of_open ((h.clients client).mp hclient).2]
  rfl

theorem step_visit (h : Delivers events hub) {message : Message} {rest : Finset Client}
    (hranging : hub.ranging = some (message, rest)) (hclient : client ∈ rest) :
    ∃ after, hub.step (.visit client) = some after ∧ Delivers events after := by
  have hmem := h.visits message rest hranging hclient
  have hopen := ((h.clients client).mp hmem).2
  simp only [Hub.step, Hub.visit]
  rw [hranging]
  dsimp only
  rcases Channel.trySend_of_open (a := message) hopen with ⟨ch, hsend, hsent, hstill⟩ | hfull
  · rw [hsend]
    exact ⟨_, rfl, h.handed hranging hclient hsent hstill⟩
  · rw [hfull, Option.bind_some, drop_eq h hmem]
    refine ⟨_, rfl, h.dropped hmem ?_ ?_⟩
    · intro message' rest' hnext
      rw [rangeOver_eq_some hnext]
      exact Finset.erase_subset_erase client (h.visits message rest hranging)
    · intro other hother
      rw [owed_rangeOver, hranging, owed]
      simp [hother]

theorem Delivers.step (h : Delivers events hub) {e : Event Client Message}
    (henabled : hub.Enabled e) :
    ∃ after, hub.step e = some after ∧
      ((registrations (events ++ [e])).Nodup → Delivers (events ++ [e]) after) := by
  cases e with
  | register client =>
    refine ⟨_, rfl, fun honce => h.register henabled ?_⟩
    intro hagain
    have hdup : (registrations events ++ [client]).Nodup := by
      simpa [registrations, Event.registers] using honce
    exact (List.nodup_append.mp hdup).2.2 client hagain client (by simp) rfl
  | unregister client =>
    simp only [Hub.step]
    by_cases hclient : client ∈ hub.clients
    · rw [if_pos hclient, drop_eq h hclient]
      refine ⟨_, rfl, fun _ => (h.dropped hclient ?_ fun _ _ => rfl).silent rfl rfl⟩
      intro message rest hranging
      rw [show hub.ranging = none from henabled] at hranging
      cases hranging
    · rw [if_neg hclient]
      exact ⟨hub, rfl, fun _ => h.silent rfl rfl⟩
  | broadcast message => exact ⟨_, rfl, fun _ => h.broadcast henabled⟩
  | visit client =>
    obtain ⟨message, rest, hranging, hclient⟩ := henabled
    obtain ⟨after, hstep, hafter⟩ := step_visit h hranging hclient
    exact ⟨after, hstep, fun _ => hafter.silent rfl rfl⟩
  | take client => exact ⟨_, rfl, fun _ => (h.take client).silent rfl rfl⟩

theorem Reaches.delivers (h : Reaches capacity events hub) (honce : (registrations events).Nodup) :
    Delivers events hub := by
  induction h with
  | start => exact delivers_newHub capacity
  | @next events hub after e before enabled hstep ih =>
    have hbefore : (registrations events).Nodup := by
      refine List.Nodup.sublist ?_ honce
      exact (List.sublist_append_left events [e]).filterMap _
    obtain ⟨after, hafter, hdelivers⟩ := (ih hbefore).step enabled
    obtain rfl := Option.some.inj (hstep.symm.trans hafter)
    exact hdelivers honce

/-- In every run that registers no client twice: no possible step sends on a closed
channel or closes one again; the map holds the registered clients with an open
channel; and each client has been sent a first part of the broadcasts since its
registration, all of them while it is in the map and not still to be visited. -/
theorem hub_safe_and_delivers (capacity : Client → ℕ) (events : List (Event Client Message))
    (hub : Hub Client Message) (h : Reaches capacity events hub)
    (honce : (registrations events).Nodup) :
    (∀ e, hub.Enabled e → (hub.step e).isSome = true) ∧
    (∀ client, client ∈ hub.clients ↔
      client ∈ registrations events ∧ (hub.channels client).closed = false) ∧
    (∀ client, (hub.channels client).sent <+: broadcastsSince client events) ∧
    ∀ client ∈ hub.clients, hub.ranging = none →
      (hub.channels client).sent = broadcastsSince client events := by
  have hdelivers := h.delivers honce
  refine ⟨fun e henabled => ?_, hdelivers.clients, hdelivers.segment, fun client hmem hselect => ?_⟩
  · obtain ⟨after, hafter, -⟩ := hdelivers.step henabled
    rw [hafter]
    rfl
  · have hall := hdelivers.delivered client hmem
    rwa [hselect, owed, List.append_nil] at hall

def slowClient : List (Event ℕ String) :=
  [.register 0, .broadcast "created", .visit 0, .broadcast "resolved", .visit 0, .unregister 0]

theorem reaches_slowClient : ∃ hub : Hub ℕ String, Reaches (fun _ => 1) slowClient hub := by
  have hempty : Reaches (fun _ => 1) ([] : List (Event ℕ String)) (newHub fun _ => 1) := .start
  have hregistered := hempty.next (e := .register 0) rfl rfl
  have hcreated := (hregistered.next (e := .broadcast "created") rfl rfl).next
    (e := .visit 0) ⟨_, _, rfl, by decide⟩ rfl
  have hresolved := (hcreated.next (e := .broadcast "resolved") rfl rfl).next
    (e := .visit 0) ⟨_, _, rfl, by decide⟩ rfl
  exact ⟨_, hresolved.next (e := .unregister 0) rfl rfl⟩

theorem hub_safe_and_delivers_slowClient : ∃ hub : Hub ℕ String,
    Reaches (fun _ => 1) slowClient hub ∧
      ∀ client, (hub.channels client).sent <+: broadcastsSince client slowClient := by
  obtain ⟨hub, hreaches⟩ := reaches_slowClient
  obtain ⟨-, -, hsegment, -⟩ := hub_safe_and_delivers (fun _ => 1) slowClient hub hreaches
    (by decide)
  exact ⟨hub, hreaches, hsegment⟩

end Runs
end Statora.WebSocket

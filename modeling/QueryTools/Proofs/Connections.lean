import QueryTools.Proofs.Requests

/-!
# The connections of a gateway

A gateway is made to execute queries and to close, in any order and in surroundings that change from one
errand to the next.  What it does to connections is followed event by event: `Gateway.Step` says what each
event needs and what it makes of the gateway, and every errand is a chain of such steps.  So the states in
the middle of an errand are covered too.

The events so far keep the books: how many connections were opened and how many closed, and which is open.
`Gateway.Sound` is the agreement of the gateway with them, which every step keeps.

Main statements:

* `Gateway.leads_after` -- a run is a chain of steps;
* `Gateway.Sound.step` -- a step keeps gateway and events in agreement;
* `Gateway.connections_kept` -- what a gateway does to connections, in any run.
-/

namespace QueryTools

/-! ## The books -/

namespace Event

/-- The connection that an event opens. -/
def opening? : Event → Option Client
  | .opened client _ => some client
  | _ => none

/-- The connection that an event closes. -/
def closing? : Event → Option Client
  | .closed client => some client
  | _ => none

/-- The connections that were opened, in order. -/
def openings (events : List Event) : List Client := events.filterMap opening?

/-- The connections that were closed, in order. -/
def closings (events : List Event) : List Client := events.filterMap closing?

/-- A connection was opened and has not been closed since. -/
structure IsOpen (events : List Event) (client : Client) : Prop where
  opened : client ∈ openings events
  kept : client ∉ closings events

/-- A client was opened just if an event says so. -/
theorem mem_openings {events : List Event} {client : Client} :
    client ∈ openings events ↔ ∃ timeout, .opened client timeout ∈ events := by
  rw [openings, List.mem_filterMap]
  constructor
  · rintro ⟨e, member, opens⟩
    cases e with
    | opened other timeout =>
        cases opens
        exact ⟨timeout, member⟩
    | _ => cases opens
  · rintro ⟨timeout, member⟩
    exact ⟨_, member, rfl⟩

/-- It was closed just if an event says so. -/
theorem mem_closings {events : List Event} {client : Client} :
    client ∈ closings events ↔ .closed client ∈ events := by
  rw [closings, List.mem_filterMap]
  constructor
  · rintro ⟨e, member, closes⟩
    cases e with
    | closed other =>
        cases closes
        exact member
    | _ => cases closes
  · intro member
    exact ⟨_, member, rfl⟩

theorem openings_append (events later : List Event) :
    openings (events ++ later) = openings events ++ openings later := List.filterMap_append

theorem closings_append (events later : List Event) :
    closings (events ++ later) = closings events ++ closings later := List.filterMap_append

end Event

namespace Gateway

open Event

/-! ## Steps -/

/-- What an event needs of a gateway, and what it makes of it. -/
inductive Step : Gateway → Event → Gateway → Prop
  | said (g : Gateway) (record : LogRecord) : Step g (.said record) g
  /-- A connection is opened only where the gateway holds none, with the limit of the settings. -/
  | opened {g : Gateway} : g.client = none →
    Step g (.opened (.own g.opened) g.settings.timeout)
      { g with client := some (.own g.opened), opened := g.opened + 1 }
  /-- A request goes over the connection that the gateway holds. -/
  | posted {g : Gateway} {client : Client} (request : Request) : g.client = some client →
    Step g (.posted client request) g
  /-- What is closed is the connection that the gateway holds, where it is its own. -/
  | closed {g : Gateway} {client : Client} : g.client = some client → g.ownsClient = true →
    Step g (.closed client) { g with client := none }

/-- Events lead from a gateway to another, step by step. -/
def Leads (g : Gateway) : List Event → Gateway → Prop
  | [], h => g = h
  | e :: events, h => ∃ m, Step g e m ∧ m.Leads events h

variable {g h : Gateway} {events : List Event}

/-- Events lead on just where their first part leads to a gateway that the rest leads on from. -/
theorem leads_append {later : List Event} :
    g.Leads (events ++ later) h ↔ ∃ m, g.Leads events m ∧ m.Leads later h := by
  induction events generalizing g with
  | nil => simp [Leads]
  | cons e events ih =>
      simp only [List.cons_append, Leads, ih]
      constructor
      · rintro ⟨m, step, n, first, rest⟩
        exact ⟨n, ⟨m, step, first⟩, rest⟩
      · rintro ⟨n, ⟨m, step, first⟩, rest⟩
        exact ⟨m, step, n, first, rest⟩

/-- What is said leaves the gateway as it is. -/
theorem leads_said (g : Gateway) (said : ∀ e ∈ events, ∃ record, e = .said record) : g.Leads events g := by
  induction events with
  | nil => rfl
  | cons e events ih =>
      obtain ⟨record, rfl⟩ := said e List.mem_cons_self
      exact ⟨g, .said g record, ih fun e member => said e (List.mem_cons_of_mem _ member)⟩

end Gateway

namespace Gateway

open QueryTools.Action

/-! ## Errands -/

/-- A request that is sent is posted first; what follows is only said. -/
theorem events_send (request : Request) (client : Client) (s : Surroundings) :
    ∃ said, ((request.exchange client >>= answer) s).events = .posted client request :: said ∧
      ∀ e ∈ said, ∃ record, e = .said record := by
  have taken (reply : Reply) : (do
      sayIf (reply.remark? request.url)
      ofResult reply.payload : Action (List (String × Json))).OnlySays s :=
    onlySays_bind (onlySays_sayIf _) fun _ => onlySays_ofResult _
  have exchanged := events_bind_of_ok (a := post client request)
    (f := fun reply => do
      sayIf (reply.remark? request.url)
      ofResult reply.payload) (s := s) rfl
  cases result : (request.exchange client s).result with
  | error f =>
      rw [events_bind_of_error result]
      exact ⟨_, exchanged, taken _⟩
  | ok payload =>
      rw [events_bind_of_ok result, Request.exchange, exchanged]
      refine ⟨_, rfl, fun e member => ?_⟩
      rcases List.mem_append.1 member with early | late
      · exact taken _ e early
      · exact onlySays_answer payload s e late

/-- Something that a gateway is made to do. -/
inductive Errand where
  | execute (query : String) (vars : Except Failure (Option Variables))
  | close

/-- The gateway after an errand, and the events of it. -/
def meet (g : Gateway) (s : Surroundings) : Errand → Gateway × List Event
  | .execute query vars => ((g.execute query vars s).1, (g.execute query vars s).2.events)
  | .close => g.close

/-- The gateway after a run. -/
def after (g : Gateway) : List (Surroundings × Errand) → Gateway
  | [] => g
  | (s, errand) :: rest => (g.meet s errand).1.after rest

/-- What happens in a run. -/
def events (g : Gateway) : List (Surroundings × Errand) → List Event
  | [] => []
  | (s, errand) :: rest => (g.meet s errand).2 ++ (g.meet s errand).1.events rest

/-- Errands may be met in two parts. -/
theorem after_append (g : Gateway) (first rest : List (Surroundings × Errand)) :
    g.after (first ++ rest) = (g.after first).after rest := by
  induction first generalizing g with
  | nil => rfl
  | cons call first ih => exact ih (g.meet call.1 call.2).1

/-- Where a connection is needed the gateway holds one, after it has opened it if need be. -/
theorem leads_connect (g : Gateway) :
    g.Leads g.connect.2.2 g.connect.1 ∧ g.connect.1.client = some g.connect.2.1 := by
  unfold connect
  cases held : g.client with
  | some client => exact ⟨rfl, held⟩
  | none => exact ⟨⟨_, .opened held, rfl⟩, rfl⟩

/-- Whatever comes of executing a query, the gateway gets there by its steps. -/
theorem leads_execute (g : Gateway) (query : String) (vars : Except Failure (Option Variables))
    (s : Surroundings) :
    g.Leads (g.execute query vars s).2.events (g.execute query vars s).1 := by
  have said := leads_said g (onlySays_prepare g.settings query vars s)
  unfold execute
  cases prepared : (prepare g.settings query vars s).result with
  | error f => simpa only [prepared] using said
  | ok request =>
      simp only [prepared]
      obtain ⟨connected, held⟩ := g.leads_connect
      obtain ⟨later, sent, saidLater⟩ := events_send request g.connect.2.1 s
      rw [sent]
      have posted : g.connect.1.Leads (.posted g.connect.2.1 request :: later) g.connect.1 :=
        ⟨_, .posted request held, leads_said _ saidLater⟩
      exact leads_append.2 ⟨_, leads_append.2 ⟨g, said, connected⟩, posted⟩

/-- A gateway closes a client of its own, and has none then. -/
theorem close_of_owns {g : Gateway} {client : Client} (held : g.client = some client)
    (owns : g.ownsClient = true) : g.close = ({ g with client := none }, [.closed client]) := by
  simp only [close, held, owns, if_true]

/-- It does not close a client that it shares. -/
theorem close_of_shares {g : Gateway} (shares : ¬ g.ownsClient = true) : g.close = (g, []) := by
  unfold close
  cases g.client with
  | none => rfl
  | some client => exact if_neg shares

theorem close_of_none {g : Gateway} (held : g.client = none) : g.close = (g, []) := by
  simp only [close, held]

/-- Closing a gateway goes by its steps as well. -/
theorem leads_close (g : Gateway) : g.Leads g.close.2 g.close.1 := by
  cases held : g.client with
  | none =>
      rw [close_of_none held]
      exact rfl
  | some client =>
      by_cases owns : g.ownsClient = true
      · rw [close_of_owns held owns]
        exact ⟨_, .closed held owns, rfl⟩
      · rw [close_of_shares owns]
        exact rfl

/-- After it has closed, a gateway that opens its own connections holds none. -/
theorem client_close {g : Gateway} (owns : g.ownsClient = true) : g.close.1.client = none := by
  cases held : g.client with
  | none => rw [close_of_none held, held]
  | some client => rw [close_of_owns held owns]

/-- **A run is a chain of steps.** -/
theorem leads_after (g : Gateway) (calls : List (Surroundings × Errand)) :
    g.Leads (g.events calls) (g.after calls) := by
  induction calls generalizing g with
  | nil => rfl
  | cons call calls ih =>
      obtain ⟨s, errand⟩ := call
      refine leads_append.2 ⟨(g.meet s errand).1, ?_, ih _⟩
      cases errand with
      | execute query vars => exact g.leads_execute query vars s
      | close => exact g.leads_close

/-- A connection is opened only by an execution of a query that passes the check, where the gateway held
none. -/
theorem of_opened_mem_meet {g : Gateway} {s : Surroundings} {errand : Errand} {client : Client}
    {timeout : Double} (opens : .opened client timeout ∈ (g.meet s errand).2) :
    g.client = none ∧ ∃ query vars, errand = .execute query vars ∧
      ∃ document, (check g.settings query s).result = .ok document := by
  cases errand with
  | close =>
      simp only [meet, close] at opens
      split at opens
      · split at opens
        · cases List.mem_singleton.1 opens
        · cases opens
      · cases opens
  | execute query vars =>
      have notSaid : ¬ ∃ record, Event.opened client timeout = .said record := by
        rintro ⟨record, same⟩
        cases same
      have early : .opened client timeout ∉ (prepare g.settings query vars s).events :=
        fun member => notSaid (onlySays_prepare g.settings query vars s _ member)
      simp only [meet, execute] at opens
      cases prepared : (prepare g.settings query vars s).result with
      | error f =>
          simp only [prepared] at opens
          exact absurd opens early
      | ok request =>
          obtain ⟨passed, -⟩ := result_prepare_eq_ok_iff.1 prepared
          obtain ⟨later, sent, saidLater⟩ := events_send request g.connect.2.1 s
          simp only [prepared, sent, List.mem_append, List.mem_cons] at opens
          rcases opens with (first | connected) | posted | last
          · exact absurd first early
          · refine ⟨?_, query, vars, rfl, passed⟩
            unfold connect at connected
            cases held : g.client with
            | none => rfl
            | some client =>
                simp only [held] at connected
                cases connected
          · cases posted
          · exact absurd (saidLater _ last) notSaid

/-! ## Agreement with the books -/

open Event

/-- A gateway agrees with the events so far: the connection it holds is the one that is open, those it will
open are new, none was closed twice, and the difference between what was opened and what was closed is
what it holds. -/
structure Sound (g : Gateway) (events : List Event) : Prop where
  isOpen_iff : ∀ client, IsOpen events client ↔ g.client = some client
  old : ∀ client ∈ openings events, ∃ index < g.opened, client = .own index
  closed_mem : ∀ client ∈ closings events, client ∈ openings events
  nodup : (closings events).Nodup
  count : (openings events).length = (closings events).length + if g.client.isSome then 1 else 0

/-- A gateway that owns its clients is sound before anything was done. -/
theorem sound_owning (settings : Settings) : (owning settings).Sound [] where
  isOpen_iff := by
    intro client
    constructor
    · intro isOpen
      cases isOpen.opened
    · intro held
      cases held
  old := by
    intro client member
    cases member
  closed_mem := by
    intro client member
    cases member
  nodup := List.nodup_nil
  count := rfl

namespace Sound

/-- Where the books stay as they are, gateway and events stay in agreement. -/
theorem of_same {g : Gateway} {events later : List Event} (sound : g.Sound events)
    (opens : openings later = []) (closes : closings later = []) : g.Sound (events ++ later) := by
  have sameOpenings : openings (events ++ later) = openings events := by
    rw [openings_append, opens, List.append_nil]
  have sameClosings : closings (events ++ later) = closings events := by
    rw [closings_append, closes, List.append_nil]
  constructor
  · intro client
    rw [← sound.isOpen_iff client]
    constructor
    · intro isOpen
      exact ⟨sameOpenings ▸ isOpen.opened, sameClosings ▸ isOpen.kept⟩
    · intro isOpen
      exact ⟨sameOpenings.symm ▸ isOpen.opened, sameClosings.symm ▸ isOpen.kept⟩
  · rw [sameOpenings]
    exact sound.old
  · rw [sameOpenings, sameClosings]
    exact sound.closed_mem
  · rw [sameClosings]
    exact sound.nodup
  · rw [sameOpenings, sameClosings]
    exact sound.count

/-- The connection that a gateway opens next has not been opened before. -/
theorem fresh {g : Gateway} {events : List Event} (sound : g.Sound events) :
    .own g.opened ∉ openings events := by
  intro member
  obtain ⟨index, below, same⟩ := sound.old _ member
  cases same
  exact absurd below (Nat.lt_irrefl _)

/-- Opening a client where there was none leaves the gateway sound. -/
theorem opened {g : Gateway} {events : List Event} (sound : g.Sound events) (held : g.client = none)
    (timeout : Double) :
    Sound { g with client := some (.own g.opened), opened := g.opened + 1 }
      (events ++ [.opened (.own g.opened) timeout]) := by
  have nowOpen : openings (events ++ [.opened (.own g.opened) timeout]) =
      openings events ++ [.own g.opened] := openings_append _ _
  have sameClosings : closings (events ++ [.opened (.own g.opened) timeout]) = closings events := by
    rw [closings_append]
    exact List.append_nil _
  constructor
  · intro client
    constructor
    · rintro ⟨wasOpened, kept⟩
      rw [nowOpen] at wasOpened
      rw [sameClosings] at kept
      rcases List.mem_append.1 wasOpened with before | now
      · have wasHeld := (sound.isOpen_iff client).1 ⟨before, kept⟩
        rw [held] at wasHeld
        cases wasHeld
      · rw [List.mem_singleton.1 now]
    · intro holds
      cases holds
      constructor
      · rw [nowOpen]
        exact List.mem_append_right _ List.mem_cons_self
      · rw [sameClosings]
        exact fun closed => sound.fresh (sound.closed_mem _ closed)
  · intro client member
    rw [nowOpen] at member
    rcases List.mem_append.1 member with before | now
    · obtain ⟨index, below, same⟩ := sound.old client before
      exact ⟨index, Nat.lt_succ_of_lt below, same⟩
    · exact ⟨g.opened, Nat.lt_succ_self _, List.mem_singleton.1 now⟩
  · intro client member
    rw [sameClosings] at member
    rw [nowOpen]
    exact List.mem_append_left _ (sound.closed_mem client member)
  · rw [sameClosings]
    exact sound.nodup
  · have count := sound.count
    rw [held] at count
    rw [nowOpen, sameClosings, List.length_append, count]
    rfl

/-- Closing the client leaves the gateway sound. -/
theorem closed {g : Gateway} {events : List Event} (sound : g.Sound events) {client : Client}
    (held : g.client = some client) : Sound { g with client := none } (events ++ [.closed client]) := by
  have isOpen := (sound.isOpen_iff client).2 held
  have sameOpenings : openings (events ++ [.closed client]) = openings events := by
    rw [openings_append]
    exact List.append_nil _
  have nowClosed : closings (events ++ [.closed client]) = closings events ++ [client] :=
    closings_append _ _
  constructor
  · intro other
    constructor
    · rintro ⟨wasOpened, kept⟩
      rw [sameOpenings] at wasOpened
      rw [nowClosed, List.mem_append, not_or] at kept
      have wasHeld := (sound.isOpen_iff other).1 ⟨wasOpened, kept.1⟩
      rw [held] at wasHeld
      cases wasHeld
      exact absurd List.mem_cons_self kept.2
    · intro holds
      cases holds
  · rw [sameOpenings]
    exact sound.old
  · intro other member
    rw [nowClosed] at member
    rw [sameOpenings]
    rcases List.mem_append.1 member with before | now
    · exact sound.closed_mem other before
    · rw [List.mem_singleton.1 now]
      exact isOpen.opened
  · rw [nowClosed, List.nodup_append]
    refine ⟨sound.nodup, List.nodup_cons.2 ⟨List.not_mem_nil, List.nodup_nil⟩, fun other before last now same => ?_⟩
    rw [List.mem_singleton.1 now] at same
    exact isOpen.kept (same ▸ before)
  · have count := sound.count
    rw [held] at count
    rw [sameOpenings, nowClosed, List.length_append, count]
    rfl

/-- **A step keeps gateway and events in agreement.** -/
theorem step {g h : Gateway} {events : List Event} {e : Event} (sound : g.Sound events)
    (made : Step g e h) : h.Sound (events ++ [e]) := by
  cases made with
  | said record => exact sound.of_same rfl rfl
  | opened held => exact sound.opened held g.settings.timeout
  | posted request held => exact sound.of_same rfl rfl
  | closed held owns => exact sound.closed held

/-- So does a chain of steps. -/
theorem leads {g h : Gateway} {events later : List Event} (sound : g.Sound events)
    (made : g.Leads later h) : h.Sound (events ++ later) := by
  induction later generalizing g events with
  | nil =>
      cases made
      rwa [List.append_nil]
  | cons e later ih =>
      obtain ⟨m, first, rest⟩ := made
      have there := ih (sound.step first) rest
      rwa [List.append_assoc] at there

end Sound

/-! ## Every run -/

/-- What a gateway is set up with stays. -/
theorem Step.kept {g h : Gateway} {e : Event} (made : Step g e h) :
    h.settings = g.settings ∧ h.ownsClient = g.ownsClient := by
  cases made <;> exact ⟨rfl, rfl⟩

/-- No errand changes the settings or who owns the client. -/
theorem Leads.kept {g h : Gateway} {events : List Event} (made : g.Leads events h) :
    h.settings = g.settings ∧ h.ownsClient = g.ownsClient := by
  induction events generalizing g with
  | nil =>
      cases made
      exact ⟨rfl, rfl⟩
  | cons e events ih =>
      obtain ⟨m, first, rest⟩ := made
      exact ⟨(ih rest).1.trans first.kept.1, (ih rest).2.trans first.kept.2⟩

/-- A gateway that uses a connection of others stays as it is, and posts over that one. -/
theorem of_leads_sharing {settings : Settings} {client : Client} {h : Gateway} {events : List Event}
    (made : (sharing settings client).Leads events h) :
    h = sharing settings client ∧
      ∀ e ∈ events, (∃ record, e = .said record) ∨ ∃ request, e = .posted client request := by
  induction events with
  | nil =>
      cases made
      exact ⟨rfl, fun e member => nomatch member⟩
  | cons e events ih =>
      obtain ⟨m, first, rest⟩ := made
      have kept : m = sharing settings client ∧
          ((∃ record, e = .said record) ∨ ∃ request, e = .posted client request) := by
        cases first with
        | said record => exact ⟨rfl, .inl ⟨record, rfl⟩⟩
        | opened held => cases held
        | posted request held =>
            cases held
            exact ⟨rfl, .inr ⟨request, rfl⟩⟩
        | closed held owns => cases owns
      obtain ⟨rfl, now⟩ := kept
      exact ⟨(ih rest).1, List.forall_mem_cons.2 ⟨now, (ih rest).2⟩⟩

/-- Event by event: what is opened is new, has the limit, and is opened only where nothing is open; what
is posted over is open; and so is what is closed. -/
structure Disciplined (timeout : Double) (events : List Event) : Prop where
  opens : ∀ before client limit later, events = before ++ .opened client limit :: later →
    limit = timeout ∧ client ∉ openings before ∧ ∀ other, ¬ IsOpen before other
  posts : ∀ before client request later, events = before ++ .posted client request :: later →
    IsOpen before client
  closes : ∀ before client later, events = before ++ .closed client :: later → IsOpen before client

/-- Every event of a run comes from a gateway that agrees with the events before. -/
theorem exists_step_of_leads {settings : Settings} {h : Gateway} {before later : List Event} {e : Event}
    (made : (owning settings).Leads (before ++ e :: later) h) :
    ∃ g m, g.Sound before ∧ g.settings = settings ∧ Step g e m := by
  obtain ⟨g, first, m, step, -⟩ := leads_append.1 made
  have sound := (sound_owning settings).leads first
  rw [List.nil_append] at sound
  exact ⟨g, m, sound, first.kept.1, step⟩

/-- Whatever a gateway that owns its clients does is disciplined. -/
theorem disciplined_of_leads {settings : Settings} {h : Gateway} {events : List Event}
    (made : (owning settings).Leads events h) : Disciplined settings.timeout events := by
  constructor
  · rintro before client limit later rfl
    obtain ⟨g, m, sound, same, step⟩ := exists_step_of_leads made
    cases step with
    | opened held =>
        refine ⟨by rw [same], sound.fresh, fun other isOpen => ?_⟩
        have holds := (sound.isOpen_iff other).1 isOpen
        rw [held] at holds
        cases holds
  · rintro before client request later rfl
    obtain ⟨g, m, sound, -, step⟩ := exists_step_of_leads made
    cases step with
    | posted request held => exact (sound.isOpen_iff client).2 held
  · rintro before client later rfl
    obtain ⟨g, m, sound, -, step⟩ := exists_step_of_leads made
    cases step with
    | closed held owns => exact (sound.isOpen_iff client).2 held

/-- **Connections are kept.**  In any run a gateway that uses a connection of others opens none and closes
none, and posts over the one it was given.  A gateway that opens its own is disciplined and closes nothing
twice; at each point, also in the middle of an errand, it holds a connection just where one more was opened
than closed; it opens one only to execute a query that passed the check, while it held none; and once it has
closed nothing is open. -/
theorem connections_kept (settings : Settings) (calls : List (Surroundings × Errand)) :
    (∀ client, (sharing settings client).after calls = sharing settings client ∧
      ∀ e ∈ (sharing settings client).events calls,
        (∃ record, e = .said record) ∨ ∃ request, e = .posted client request) ∧
    Disciplined settings.timeout ((owning settings).events calls) ∧
    (closings ((owning settings).events calls)).Nodup ∧
    (∀ before later, (owning settings).events calls = before ++ later →
      ∃ g, (owning settings).Leads before g ∧ g.Leads later ((owning settings).after calls) ∧
        (openings before).length = (closings before).length + if g.client.isSome then 1 else 0) ∧
    ((openings ((owning settings).events calls)).length =
      (closings ((owning settings).events calls)).length +
        if ((owning settings).after calls).client.isSome then 1 else 0) ∧
    (∀ s errand client limit,
      .opened client limit ∈ (((owning settings).after calls).meet s errand).2 →
        ((owning settings).after calls).client = none ∧
        ∃ query vars, errand = .execute query vars ∧
          ∃ document, (check settings query s).result = .ok document) ∧
    ∀ s, ((owning settings).after (calls ++ [(s, .close)])).client = none ∧
      ∀ client, ¬ IsOpen ((owning settings).events (calls ++ [(s, .close)])) client := by
  have made := (owning settings).leads_after calls
  have sound := (sound_owning settings).leads made
  rw [List.nil_append] at sound
  refine ⟨?shared, disciplined_of_leads made, sound.nodup, ?points, sound.count, ?opens, ?closes⟩
  case shared =>
    intro client
    exact of_leads_sharing ((sharing settings client).leads_after calls)
  case points =>
    intro before later split
    rw [split] at made
    obtain ⟨g, first, rest⟩ := leads_append.1 made
    exact ⟨g, first, rest, ((sound_owning settings).leads first).count⟩
  case opens =>
    intro s errand client limit opened
    have same : ((owning settings).after calls).settings = settings := made.kept.1
    have needs := of_opened_mem_meet opened
    rwa [same] at needs
  case closes =>
    intro s
    have closed : ((owning settings).after (calls ++ [(s, .close)])).client = none := by
      rw [after_append]
      exact client_close made.kept.2
    refine ⟨closed, fun client isOpen => ?_⟩
    have soundThen := (sound_owning settings).leads ((owning settings).leads_after (calls ++ [(s, .close)]))
    have held := (soundThen.isOpen_iff client).1 isOpen
    rw [closed] at held
    cases held

/-- Surroundings in which no request is answered. -/
def offline : Surroundings := { reply := fun _ => .failed "ConnectError" "down" }

/-- Queries that are no documents, are not answered and are not admitted, with the connection closed in
between, also twice. -/
def errands : List (Surroundings × Errand) :=
  [.execute "\x7b" (.ok none), .execute "{ a }" (.ok none), .execute "{ a }" (.ok none), .close, .close,
    .execute "mutation { a }" (.ok none)].map fun errand => (offline, errand)

/-- Queries that fail open one client together, which is closed once. -/
theorem connections_kept_errands :
    openings ((owning {}).events errands) = [.own 0] ∧
    closings ((owning {}).events errands) = [.own 0] ∧
    (∃ before limit later, (owning {}).events errands = before ++ .opened (.own 0) limit :: later ∧
      limit = ({} : Settings).timeout ∧ ∀ other, ¬ IsOpen before other) ∧
    (∃ before later, (owning {}).events errands = before ++ .closed (.own 0) :: later ∧
      IsOpen before (.own 0)) ∧
    ∃ s errand client limit,
      .opened client limit ∈ (((owning {}).after errands).meet s errand).2 ∧
        ((owning {}).after errands).client = none := by
  obtain ⟨-, disciplined, -, -, -, opens, -⟩ := connections_kept {} errands
  have allOpened : openings ((owning {}).events errands) = [.own 0] := by decide +kernel
  have allClosed : closings ((owning {}).events errands) = [.own 0] := by decide +kernel
  refine ⟨allOpened, allClosed, ?_, ?_, ?_⟩
  · obtain ⟨limit, member⟩ := mem_openings.1 (allOpened ▸ List.mem_cons_self)
    obtain ⟨before, later, split⟩ := List.append_of_mem member
    obtain ⟨same, -, none⟩ := disciplined.opens _ _ _ _ split
    exact ⟨before, limit, later, split, same, none⟩
  · obtain ⟨before, later, split⟩ := List.append_of_mem (mem_closings.1 (allClosed ▸ List.mem_cons_self))
    exact ⟨before, later, split, disciplined.closes _ _ _ split⟩
  · have next : openings (((owning {}).after errands).meet offline (.execute "{ b }" (.ok none))).2 =
        [.own 1] := by decide +kernel
    obtain ⟨limit, member⟩ := mem_openings.1 (next ▸ List.mem_cons_self)
    exact ⟨offline, _, _, limit, member, (opens _ _ _ _ member).1⟩

end Gateway

end QueryTools

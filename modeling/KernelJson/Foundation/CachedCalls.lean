import KernelJson.Foundation.JsMap
import Mathlib.Tactic.Cases

/-!
# Calls that are answered from a cache

A service looks the key of a request up in its cache.  A cached value that
agrees with the request is returned; without one the service asks a backend,
and what it makes of the backend's answer is cached and returned.  Calls
overlap: while one waits for the backend, others are made and settled.  A run
in which no call finds its key in flight or used for another request, and in
which the service can use what it reads, answers every request with a value
that was verified for it and reads each key at most once.
-/

namespace KernelJson.Foundation.CachedCalls

/-! ## Services -/

/-- The parts of a call: what it is given, what it is asked and told, and what it makes of it. -/
structure Service (Raw Request Question Answer Reading Value Key Fault : Type) where
  recognise : Raw → Except Fault Request
  key : Request → Key
  agrees : Value → Request → Bool
  conflict : Fault
  prepare : Request → Except Fault Question
  read : Answer → Except Fault Reading
  pack : Request → Question → Answer → Reading → Except Fault Value

/-- What a call comes to before the backend has answered. -/
inductive Reply (Request Question Value Fault : Type) where
  | answered (request : Request) (value : Value)
  | refused (fault : Fault)
  | asks (request : Request) (question : Question)

inductive Event (Raw Request Question Answer Value Fault : Type) where
  | called (raw : Raw) (reply : Reply Request Question Value Fault)
  | settled (request : Request) (answer : Answer) (result : Except Fault Value)

structure State (Request Question Value Key : Type) where
  cache : JsMap Key Value
  waiting : List (Request × Question)

variable {Raw Request Question Answer Reading Value Key Fault : Type}

/-- The call that waits after a reply. -/
def Reply.waits : Reply Request Question Value Fault → List (Request × Question)
  | .asks request question => [(request, question)]
  | _ => []

variable [DecidableEq Key]

namespace Service

variable (service : Service Raw Request Question Answer Reading Value Key Fault)

/-- A call up to the point where it waits. -/
def invoke (cache : JsMap Key Value) (raw : Raw) : Reply Request Question Value Fault :=
  match service.recognise raw with
  | .error fault => .refused fault
  | .ok request =>
      match cache.get? (service.key request) with
      | some value =>
          if service.agrees value request = true then .answered request value
          else .refused service.conflict
      | none =>
          match service.prepare request with
          | .error fault => .refused fault
          | .ok question => .asks request question

/-- The rest of the call. -/
def settle (request : Request) (question : Question) (answer : Answer) : Except Fault Value :=
  match service.read answer with
  | .error fault => .error fault
  | .ok reading => service.pack request question answer reading

/-- Only a value is cached. -/
def keep (cache : JsMap Key Value) (request : Request) : Except Fault Value → JsMap Key Value
  | .error _ => cache
  | .ok value => cache.set (service.key request) value

/-! ## Runs -/

inductive Step : State Request Question Value Key → Event Raw Request Question Answer Value Fault →
    State Request Question Value Key → Prop where
  | called {state : State Request Question Value Key} {raw : Raw} :
      Step state (.called raw (service.invoke state.cache raw))
        { state with waiting := (service.invoke state.cache raw).waits ++ state.waiting }
  | settled {state : State Request Question Value Key} {request : Request} {question : Question}
      {answer : Answer}
      {before after : List (Request × Question)} (waits : state.waiting = before ++ (request,
        question) :: after) :
      Step state (.settled request answer (service.settle request question answer))
        { cache := service.keep state.cache request (service.settle request question answer),
          waiting := before ++ after }

/-- A run from an empty cache, with its events, the last one first. -/
inductive Run : List (Event Raw Request Question Answer Value Fault) →
  State Request Question Value Key → Prop where
  | start : Run [] ⟨.empty, []⟩
  | step {history : List (Event Raw Request Question Answer Value Fault)}
      {state after : State Request Question Value Key}
      {event : Event Raw Request Question Answer Value Fault} (run : Run history state)
      (made : service.Step state event after) : Run (event :: history) after

end Service

/-! ## What a history shows -/

def Asked (history : List (Event Raw Request Question Answer Value Fault)) (request : Request) : Prop :=
  ∃ raw question, Event.called raw (.asks request question) ∈ history

/-- The result that a call was given, at once or later. -/
inductive Event.Returns : Event Raw Request Question Answer Value Fault → Request → Value → Prop where
  | cached {raw : Raw} {request : Request} {value : Value} :
      Returns (.called raw (.answered request value)) request value
  | settled {request : Request} {answer : Answer} {value : Value} :
      Returns (.settled request answer (.ok value)) request value

/-- The backend was read for the request, and its answer reported success. -/
inductive Service.Reads (service : Service Raw Request Question Answer Reading Value Key Fault) :
    Event Raw Request Question Answer Value Fault → Request → Prop where
  | settled {request : Request} {answer : Answer} {result : Except Fault Value} {reading : Reading}
      (succeeded : service.read answer = .ok reading) : Reads service (.settled request answer result) request

section

variable (service : Service Raw Request Question Answer Reading Value Key Fault)
variable (Same : Request → Request → Prop) (Verified : Request → Value → Prop)

/-- Results are verified for the request they answer, no key is read twice, and a key under which
the backend was asked is refused to other requests. -/
structure Faithful (history : List (Event Raw Request Question Answer Value Fault)) : Prop where
  answers : ∀ event ∈ history, ∀ request value, event.Returns request value → Verified request value
  once : history.Pairwise fun later earlier => ∀ second first,
    service.Reads later second → service.Reads earlier first → service.key second ≠ service.key first
  refuses : history.Pairwise fun later earlier => ∀ raw reply request other,
    later = .called raw reply → service.recognise raw = .ok request → Asked [earlier] other →
      service.key other = service.key request → ¬ Same other request → ∃ fault, reply = .refused fault

/-- A call that goes no way on which the key of another request could be answered or read again. -/
inductive Clear (history : List (Event Raw Request Question Answer Value Fault))
    (state : State Request Question Value Key) (request : Request) : Prop where
  | disputed {value : Value} (cached : state.cache.get? (service.key request) = some value)
      (conflicts : service.agrees value request = false)
  | unprepared {fault : Fault} (uncached : state.cache.get? (service.key request) = none)
      (refused : service.prepare request = .error fault)
  | alone (free : ∀ call ∈ state.waiting, service.key call.1 ≠ service.key request)
      (same : ∀ other, Asked history other → service.key other = service.key request → Same other request)

variable (Usable : Request → Answer → Reading → Prop)

/-- The condition on a step. -/
def Careful (history : List (Event Raw Request Question Answer Value Fault))
    (state : State Request Question Value Key) :
    Event Raw Request Question Answer Value Fault → Prop
  | .called raw _ => ∀ request, service.recognise raw = .ok request → Clear service Same history state request
  | .settled request answer _ => ∀ reading, service.read answer = .ok reading → Usable request answer reading

/-- A run all of whose steps meet the condition. -/
inductive CarefulRun : List (Event Raw Request Question Answer Value Fault) →
    State Request Question Value Key → Prop where
  | start : CarefulRun [] ⟨.empty, []⟩
  | step {history : List (Event Raw Request Question Answer Value Fault)}
      {state after : State Request Question Value Key} {event : Event Raw Request Question Answer Value Fault}
      (run : CarefulRun history state) (made : service.Step state event after)
      (careful : Careful service Same Usable history state event) : CarefulRun (event :: history) after

/-- What the service's parts must satisfy. -/
structure Sound : Prop where
  congr : ∀ {first second : Request} {value : Value}, Same first second → Verified first value →
    Verified second value
  packed : ∀ {request : Request} {question : Question} {answer : Answer} {reading : Reading} {value : Value},
    service.pack request question answer reading = .ok value → Verified request value
  packs : ∀ {raw : Raw} {request : Request} {question : Question} {answer : Answer} {reading : Reading},
    service.recognise raw = .ok request → service.prepare request = .ok question →
      service.read answer = .ok reading → Usable request answer reading →
      ∃ value, service.pack request question answer reading = .ok value

/-- The state of a careful run. -/
structure Kept (history : List (Event Raw Request Question Answer Value Fault))
    (state : State Request Question Value Key) : Prop where
  faithful : Faithful service Same Verified history
  cached : ∀ key value, state.cache.get? key = some value →
    ∃ request, Asked history request ∧ service.key request = key ∧ Verified request value
  asked : ∀ call ∈ state.waiting, Asked history call.1
  prepared : ∀ call ∈ state.waiting, service.prepare call.1 = .ok call.2 ∧
    ∃ raw, service.recognise raw = .ok call.1
  alone : (state.waiting.map fun call => service.key call.1).Nodup
  uncached : ∀ call ∈ state.waiting, state.cache.get? (service.key call.1) = none
  unread : ∀ key, state.cache.get? key = none → ∀ event ∈ history, ∀ request,
    service.Reads event request → service.key request ≠ key

end

/-! ## Steps keep it -/

theorem Asked.later {history : List (Event Raw Request Question Answer Value Fault)} {request : Request}
    (asked : Asked history request) (event : Event Raw Request Question Answer Value Fault) :
    Asked (event :: history) request := by
  obtain ⟨raw, question, member⟩ := asked
  exact ⟨raw, question, List.mem_cons_of_mem _ member⟩

theorem Asked.of_mem {history : List (Event Raw Request Question Answer Value Fault)} {request : Request}
    {event : Event Raw Request Question Answer Value Fault} (member : event ∈ history)
    (asked : Asked [event] request) : Asked history request := by
  obtain ⟨raw, question, here⟩ := asked
  rw [List.mem_singleton] at here
  exact ⟨raw, question, here ▸ member⟩

section

variable {service : Service Raw Request Question Answer Reading Value Key Fault}
variable {Same : Request → Request → Prop} {Verified : Request → Value → Prop}
variable {Usable : Request → Answer → Reading → Prop}
variable {history : List (Event Raw Request Question Answer Value Fault)}
variable {state : State Request Question Value Key}

/-- What a call can come to. -/
inductive Service.Invoked (service : Service Raw Request Question Answer Reading Value Key Fault)
    (cache : JsMap Key Value) (raw : Raw) : Reply Request Question Value Fault → Prop where
  | rejected {fault : Fault} (unadmitted : service.recognise raw = .error fault) :
      Invoked service cache raw (.refused fault)
  | answered {request : Request} {value : Value} (admitted : service.recognise raw = .ok request)
      (found : cache.get? (service.key request) = some value)
      (agreed : service.agrees value request = true) : Invoked service cache raw (.answered request value)
  | conflict {request : Request} {value : Value} (admitted : service.recognise raw = .ok request)
      (found : cache.get? (service.key request) = some value)
      (disagreed : service.agrees value request = false) :
      Invoked service cache raw (.refused service.conflict)
  | unprepared {request : Request} {fault : Fault} (admitted : service.recognise raw = .ok request)
      (missing : cache.get? (service.key request) = none)
      (unprepared : service.prepare request = .error fault) : Invoked service cache raw (.refused fault)
  | asks {request : Request} {question : Question} (admitted : service.recognise raw = .ok request)
      (missing : cache.get? (service.key request) = none)
      (prepared : service.prepare request = .ok question) :
      Invoked service cache raw (.asks request question)

theorem Service.invoked (service : Service Raw Request Question Answer Reading Value Key Fault)
    (cache : JsMap Key Value) (raw : Raw) : service.Invoked cache raw (service.invoke cache raw) := by
  unfold Service.invoke
  cases admitted : service.recognise raw with
  | error fault => exact .rejected admitted
  | ok request =>
      dsimp only
      cases found : cache.get? (service.key request) with
      | some value =>
          dsimp only
          split
          · next agreed => exact .answered admitted found agreed
          · next disagreed => exact .conflict admitted found (Bool.not_eq_true _ ▸ disagreed)
      | none =>
          dsimp only
          cases prepared : service.prepare request with
          | error fault => exact .unprepared admitted found prepared
          | ok question => exact .asks admitted found prepared

omit [DecidableEq Key] in
/-- A call whose request is the same as every one asked before, or is refused, keeps a history faithful. -/
theorem Faithful.called {raw : Raw} {reply : Reply Request Question Value Fault}
    (faithful : Faithful service Same Verified history)
    (answered : ∀ request value, reply = .answered request value → Verified request value)
    (refused : ∀ request other, service.recognise raw = .ok request → Asked history other →
      service.key other = service.key request → ¬ Same other request → ∃ fault, reply = .refused fault) :
    Faithful service Same Verified (.called raw reply :: history) where
  answers := by
    intro event member request value returned
    rcases List.mem_cons.mp member with rfl | earlier
    · cases returned
      exact answered request value rfl
    · exact faithful.answers event earlier request value returned
  once := by
    refine List.pairwise_cons.mpr ⟨?_, faithful.once⟩
    intro event member second first read
    cases read
  refuses := by
    refine List.pairwise_cons.mpr ⟨?_, faithful.refuses⟩
    rintro event member _ _ request other ⟨⟩ admitted asked sameKey different
    exact refused request other admitted (asked.of_mem member) sameKey different

omit [DecidableEq Key] in
/-- A call that settles keeps a history faithful if its key was not read before, or is not read now. -/
theorem Faithful.settled {request : Request} {answer : Answer} {result : Except Fault Value}
    (faithful : Faithful service Same Verified history)
    (returned : ∀ value, result = .ok value → Verified request value)
    (unread : ∀ reading, service.read answer = .ok reading → ∀ event ∈ history, ∀ other,
      service.Reads event other → service.key other ≠ service.key request) :
    Faithful service Same Verified (.settled request answer result :: history) where
  answers := by
    intro event member other value returns
    rcases List.mem_cons.mp member with rfl | earlier
    · cases returns
      exact returned value rfl
    · exact faithful.answers event earlier other value returns
  once := by
    refine List.pairwise_cons.mpr ⟨?_, faithful.once⟩
    intro event member second first read before same
    cases read with
    | settled succeeded => exact unread _ succeeded event member first before same.symm
  refuses := by
    refine List.pairwise_cons.mpr ⟨?_, faithful.refuses⟩
    rintro event member raw reply other earlier ⟨⟩

/-- A call that leaves the cache and the waiting calls as they are. -/
theorem Kept.told {raw : Raw} {reply : Reply Request Question Value Fault}
    (kept : Kept service Same Verified history state)
    (faithful : Faithful service Same Verified (.called raw reply :: history)) :
    Kept service Same Verified (.called raw reply :: history) state where
  faithful := faithful
  cached := by
    intro key value found
    obtain ⟨request, asked, sameKey, verified⟩ := kept.cached key value found
    exact ⟨request, asked.later _, sameKey, verified⟩
  asked := fun call member => (kept.asked call member).later _
  prepared := kept.prepared
  alone := kept.alone
  uncached := kept.uncached
  unread := by
    intro key missing event member request read
    rcases List.mem_cons.mp member with rfl | earlier
    · cases read
    · exact kept.unread key missing event earlier request read

theorem Kept.refused {raw : Raw} {fault : Fault} (kept : Kept service Same Verified history state) :
    Kept service Same Verified (.called raw (.refused fault) :: history) state := by
  apply kept.told
  apply kept.faithful.called
  · intro request value same
    cases same
  · intro request other admitted asked sameKey different
    exact ⟨fault, rfl⟩

theorem Kept.asks {raw : Raw} {request : Request} {question : Question}
    (kept : Kept service Same Verified history state) (admitted : service.recognise raw = .ok request)
    (missing : state.cache.get? (service.key request) = none)
    (prepared : service.prepare request = .ok question)
    (free : ∀ call ∈ state.waiting, service.key call.1 ≠ service.key request)
    (faithful : Faithful service Same Verified (.called raw (.asks request question) :: history)) :
    Kept service Same Verified (.called raw (.asks request question) :: history)
      { state with waiting := (request, question) :: state.waiting } := by
  have told := kept.told faithful
  refine { told with asked := ?_, prepared := ?_, alone := ?_, uncached := ?_ }
  · intro call member
    rcases List.mem_cons.mp member with rfl | earlier
    · exact ⟨raw, question, List.mem_cons_self⟩
    · exact told.asked call earlier
  · intro call member
    rcases List.mem_cons.mp member with rfl | earlier
    · exact ⟨prepared, raw, admitted⟩
    · exact told.prepared call earlier
  · refine List.nodup_cons.mpr ⟨fun member => ?_, kept.alone⟩
    obtain ⟨call, waits, sameKey⟩ := List.mem_map.mp member
    exact free call waits sameKey
  · intro call member
    rcases List.mem_cons.mp member with rfl | earlier
    · exact missing
    · exact told.uncached call earlier

theorem Kept.called {raw : Raw} (sound : Sound service Same Verified Usable)
    (kept : Kept service Same Verified history state)
    (clear : ∀ request, service.recognise raw = .ok request → Clear service Same history state request) :
    Kept service Same Verified (.called raw (service.invoke state.cache raw) :: history)
      { state with waiting := (service.invoke state.cache raw).waits ++ state.waiting } := by
  have invoked := service.invoked state.cache raw
  generalize service.invoke state.cache raw = reply at invoked ⊢
  cases invoked with
  | rejected unadmitted => exact kept.refused
  | conflict admitted found disagreed => exact kept.refused
  | unprepared admitted missing unprepared => exact kept.refused
  | answered admitted found agreed =>
      rename_i request value
      cases clear request admitted with
      | disputed cached conflicts =>
          rw [Option.some.inj (found.symm.trans cached), conflicts] at agreed
          cases agreed
      | unprepared uncached refused =>
          rw [found] at uncached
          cases uncached
      | alone free same =>
          apply kept.told
          apply kept.faithful.called
          · rintro _ _ ⟨⟩
            obtain ⟨origin, asked, sameKey, verified⟩ := kept.cached _ value found
            exact sound.congr (same origin asked sameKey) verified
          · intro again other admittedAgain asked sameKey different
            cases admitted.symm.trans admittedAgain
            exact absurd (same other asked sameKey) different
  | asks admitted missing prepared =>
      rename_i request question
      cases clear request admitted with
      | disputed cached conflicts =>
          rw [missing] at cached
          cases cached
      | unprepared uncached refused =>
          rw [prepared] at refused
          cases refused
      | alone free same =>
          apply kept.asks admitted missing prepared free
          apply kept.faithful.called
          · rintro _ _ ⟨⟩
          · intro again other admittedAgain asked sameKey different
            cases admitted.symm.trans admittedAgain
            exact absurd (same other asked sameKey) different

/-- A call whose backend failed, or whose answer cannot be used, leaves the cache as it is. -/
theorem Kept.failed {call : Request × Question} {answer : Answer} {fault : Fault}
    {before after : List (Request × Question)} (kept : Kept service Same Verified history state)
    (waits : state.waiting = before ++ call :: after)
    (unread : ∀ reading, service.read answer ≠ .ok reading) :
    Kept service Same Verified (.settled call.1 answer (.error fault) :: history)
      { state with waiting := before ++ after } := by
  have fewer : (before ++ after).Sublist state.waiting :=
    waits ▸ List.Sublist.append (.refl before) (List.sublist_cons_self call after)
  refine ⟨?_, ?_, ?_, ?_, ?_, ?_, ?_⟩
  · apply kept.faithful.settled
    · intro value returned
      cases returned
    · intro reading succeeded
      exact absurd succeeded (unread reading)
  · intro key value found
    obtain ⟨origin, asked, sameKey, verified⟩ := kept.cached key value found
    exact ⟨origin, asked.later _, sameKey, verified⟩
  · exact fun other member => (kept.asked other (fewer.subset member)).later _
  · exact fun other member => kept.prepared other (fewer.subset member)
  · exact kept.alone.sublist (fewer.map _)
  · exact fun other member => kept.uncached other (fewer.subset member)
  · intro key missing event member other read
    rcases List.mem_cons.mp member with rfl | earlier
    · cases read with
      | settled succeeded => exact absurd succeeded (unread _)
    · exact kept.unread key missing event earlier other read

/-- The value of a call is cached. -/
theorem Kept.valued {call : Request × Question} {answer : Answer} {value : Value}
    {before after : List (Request × Question)} (kept : Kept service Same Verified history state)
    (waits : state.waiting = before ++ call :: after) (verified : Verified call.1 value) :
    Kept service Same Verified (.settled call.1 answer (.ok value) :: history)
      ⟨state.cache.set (service.key call.1) value, before ++ after⟩ := by
  have member : call ∈ state.waiting := waits ▸ List.mem_append_right before List.mem_cons_self
  have fewer : (before ++ after).Sublist state.waiting :=
    waits ▸ List.Sublist.append (.refl before) (List.sublist_cons_self call after)
  have missing := kept.uncached call member
  have others : ∀ other ∈ before ++ after, service.key call.1 ≠ service.key other.1 := by
    intro other found same
    have distinct := kept.alone
    rw [waits, List.map_append, List.map_cons, List.nodup_middle, ← List.map_append] at distinct
    exact (List.nodup_cons.mp distinct).1 (List.mem_map.mpr ⟨other, found, same.symm⟩)
  refine ⟨?_, ?_, ?_, ?_, ?_, ?_, ?_⟩
  · apply kept.faithful.settled
    · rintro _ ⟨⟩
      exact verified
    · exact fun _ _ => kept.unread _ missing
  · intro key found present
    rw [JsMap.get?_set] at present
    split at present
    · next here =>
        cases present
        exact ⟨call.1, (kept.asked call member).later _, here, verified⟩
    · obtain ⟨origin, asked, sameKey, holds⟩ := kept.cached key found present
      exact ⟨origin, asked.later _, sameKey, holds⟩
  · exact fun other found => (kept.asked other (fewer.subset found)).later _
  · exact fun other found => kept.prepared other (fewer.subset found)
  · exact kept.alone.sublist (fewer.map _)
  · intro other found
    rw [JsMap.get?_set_of_ne _ (others other found)]
    exact kept.uncached other (fewer.subset found)
  · intro key absent event found other read
    rw [JsMap.get?_set] at absent
    split at absent
    · cases absent
    · next elsewhere =>
        rcases List.mem_cons.mp found with rfl | earlier
        · cases read
          exact elsewhere
        · exact kept.unread key absent event earlier other read

theorem Kept.step {event : Event Raw Request Question Answer Value Fault}
    {next : State Request Question Value Key}
    (sound : Sound service Same Verified Usable) (kept : Kept service Same Verified history state)
    (made : service.Step state event next) (careful : Careful service Same Usable history state event) :
    Kept service Same Verified (event :: history) next := by
  cases made with
  | called => exact kept.called sound careful
  | settled waits =>
      rename_i request question answer before after
      obtain ⟨prepared, raw, admitted⟩ :=
        kept.prepared (request, question) (waits ▸ List.mem_append_right before List.mem_cons_self)
      unfold Service.settle
      cases read : service.read answer with
      | error fault =>
          apply kept.failed waits
          intro reading succeeded
          rw [read] at succeeded
          cases succeeded
      | ok reading =>
          obtain ⟨value, packed⟩ := sound.packs admitted prepared read (careful reading read)
          dsimp only
          rw [packed]
          exact kept.valued waits (sound.packed packed)

/-! ## Careful runs are faithful -/

theorem Kept.start : Kept service Same Verified [] ⟨.empty, []⟩ where
  faithful := ⟨fun _ member => absurd member List.not_mem_nil, .nil, .nil⟩
  cached := fun _ _ found => by cases found
  asked := fun _ member => absurd member List.not_mem_nil
  prepared := fun _ member => absurd member List.not_mem_nil
  alone := List.nodup_nil
  uncached := fun _ member => absurd member List.not_mem_nil
  unread := fun _ _ _ member => absurd member List.not_mem_nil

theorem CarefulRun.kept (sound : Sound service Same Verified Usable)
    (run : CarefulRun service Same Usable history state) : Kept service Same Verified history state := by
  induction run with
  | start => exact .start
  | step run made careful ih => exact ih.step sound made careful

theorem CarefulRun.faithful (sound : Sound service Same Verified Usable)
    (run : CarefulRun service Same Usable history state) : Faithful service Same Verified history :=
  (run.kept sound).faithful

/-- Two calls of one request that overlap read its key twice: nothing is cached before the answer. -/
theorem Service.overlap_reads_twice {raw : Raw} {request : Request} {question : Question} {answer : Answer}
    {reading : Reading} (admitted : service.recognise raw = .ok request)
    (prepared : service.prepare request = .ok question) (succeeded : service.read answer = .ok reading) :
    ∃ history state, service.Run history state ∧
      ¬ Faithful service Same Verified history := by
  have asks : service.invoke .empty raw = .asks request question := by
    unfold Service.invoke
    simp only [admitted, JsMap.get?_empty, prepared]
  have first := @Service.Step.called _ _ _ _ _ _ _ _ _ service ⟨.empty, []⟩ raw
  have second := @Service.Step.called _ _ _ _ _ _ _ _ _ service ⟨.empty, [(request, question)]⟩ raw
  rw [asks] at first second
  have settled := @Service.Step.settled _ _ _ _ _ _ _ _ _ service
    ⟨.empty, [(request, question), (request, question)]⟩ request question answer [] [(request, question)] rfl
  refine ⟨_, _, .step (.step (.step (.step .start first) second) settled)
    (@Service.Step.settled _ _ _ _ _ _ _ _ _ service _ request question answer [] [] rfl), ?_⟩
  intro faithful
  have once := (List.pairwise_cons.mp faithful.once).1 _ List.mem_cons_self request request
  exact once (.settled succeeded) (.settled succeeded) rfl

end

end KernelJson.Foundation.CachedCalls

import TrinoGateway.Proof.Repo
import TrinoGateway.Spec.Gateway
import Mathlib.Data.Finset.Sort

/-!
# Whether a submitted query becomes findable

After the backend's answer the router saves the submission's record under the id in the
response. The save is an upsert, and its failure is only logged: a record that the table does
not take is lost, and a response without an id saves a record under the empty id.
`saved_iff`: **the save step does what it should exactly when the table takes the record, and
when there is no id to save under, exactly when it does not**.
-/

namespace TrinoGateway

open Interact Prog

namespace QueryApi

variable (clock : ℕ → ℤ) (w : World) (params : QueryCreateParams)

/-- The world after the upsert: the row of this id is updated, or a row is inserted. -/
def upserted : World :=
  match w.db.find .queries params.id with
  | some _ => (mysql (.available clock) (.updates .queries (queryOf params)) w.next).2
  | none => (mysql (.available clock) (.insert .queries (queryOf params)) w.next).2

theorem run_createOrUpdateQuery :
    ((createOrUpdateQuery params).run (mysql (.available clock)) w).2 =
      upserted clock w params := by
  have hfind := Spine.run_findByID (.available clock) w .queries params.id
  rw [read_available] at hfind
  unfold createOrUpdateQuery upserted
  simp only [bind_eq, QueryRepo.find, Repo.find]
  rw [run_bind_some _ hfind]
  cases w.db.find .queries params.id with
  | some old =>
    simp only [Option.elim_some, QueryRepo.update]
    rw [Repo.run_update _ _ _ _ rfl]
  | none =>
    simp only [Option.elim_none, QueryRepo.create]
    rw [Repo.run_create _ _ _ _ rfl rfl]

/-- The lookup of a query's backend and group. -/
theorem run_findBackendForQuery (queryId : String) :
    ((findBackendForQuery queryId).run (mysql (.available clock)) w).1 =
      some ((w.db.find .queries queryId).elim (.error .recordNotFound)
        fun query => .ok (query.backendId, query.groupId)) := by
  have hfind := Spine.run_findByID (.available clock) w .queries queryId
  rw [read_available] at hfind
  unfold findBackendForQuery getQuery QueryRepo.find Repo.find
  cases hq : w.db.find .queries queryId with
  | none =>
    rw [hq] at hfind
    rw [run_andThen_error _ hfind]
    rfl
  | some query =>
    rw [hq] at hfind
    rw [run_andThen_ok _ hfind]
    rfl

/-- The table takes a record of a new query. -/
def TakesNew (db : Db) (now : ℤ) : Prop :=
  (db.accept .queries (Tbl.onInsert now .queries (queryOf params))).toBool

/-- The table takes a record over the one it has. -/
def TakesOver (db : Db) (now : ℤ) (old : Query) : Prop :=
  (db.accept .queries (Tbl.onUpdate now .queries old (queryOf params))).toBool

/-- A text that is too long after the cut is not taken. -/
theorem not_takesNew_of_length {db : Db} {now : ℤ} (h : 500 < (cut 500 params.text).length) :
    ¬ TakesNew params db now := by
  intro ht
  unfold TakesNew at ht
  cases ha : db.accept .queries (Tbl.onInsert now .queries (queryOf params)) with
  | error e => simp [ha, Except.toBool] at ht
  | ok row =>
    have hcheck := firstFailing_eq_none (Db.accept_ok ha).2.1 (varchar 500 (cut 500 params.text))
      (by simp [Tbl.checks, Tbl.onInsert, Tbl.stamped, Tbl.fitted, queryOf])
    have hlength := length_of_varchar hcheck
    omega

/-- An upsert of the world's next statement would insert a row. -/
def Adds : Prop := w.db.find .queries params.id = none ∧ TakesNew params w.db (clock (w.tick + 2))

/-- An upsert under a non-empty id leaves the record's backend and group behind: the table
takes the record, which merges no empty field with an old one, or it keeps an old record with
the same backend and group. -/
def Lands : Prop :=
  match w.db.find .queries params.id with
  | none => TakesNew params w.db (clock (w.tick + 2))
  | some old =>
    (TakesOver params w.db (clock (w.tick + 2)) old ∧
      (params.backendId = "" → old.backendId = "") ∧ (params.groupId = "" → old.groupId = "")) ∨
    (¬ TakesOver params w.db (clock (w.tick + 2)) old ∧
      old.backendId = params.backendId ∧ old.groupId = params.groupId)

/-- The record of this id names the backend and the group already. -/
def Known : Prop :=
  ∃ old, w.db.find .queries params.id = some old ∧ old.backendId = params.backendId ∧
    old.groupId = params.groupId

variable {params w}

/-- A new record. -/
theorem upserted_new (hnone : w.db.find .queries params.id = none) :
    (upserted clock w params).db =
      match w.db.accept .queries (Tbl.onInsert (clock (w.tick + 1)) .queries (queryOf params)) with
      | .ok r => w.db.setRows .queries (w.db.queries ++ [r])
      | .error _ => w.db := by
  have hfind : w.db.find .queries (Tbl.queries.id (queryOf params)) = none := hnone
  simp only [upserted, hnone, mysql, exec, Env.available_faults, Env.available_clock, Db.answer,
    World.next_db, World.next_tick, Db.insert]
  cases w.db.accept .queries (Tbl.onInsert (clock (w.tick + 1)) .queries (queryOf params)) with
  | error e => rfl
  | ok r =>
    simp only [hfind]
    rfl

/-- A record over an old one; under the empty id nothing is written. -/
theorem upserted_old {old : Query} (hold : w.db.find .queries params.id = some old) :
    (upserted clock w params).db =
      if params.id = "" then w.db
      else
        match w.db.accept .queries
            (Tbl.onUpdate (clock (w.tick + 1)) .queries old (queryOf params)) with
        | .ok r => w.db.put .queries params.id r
        | .error _ => w.db := by
  have hid : Tbl.queries.id (queryOf params) = params.id := rfl
  simp only [upserted, hold, mysql, exec, Env.available_faults, Env.available_clock, Db.answer,
    World.next_db, World.next_tick, Db.updates, hid]
  by_cases hempty : params.id = ""
  · rw [if_pos hempty, if_pos hempty]
  · rw [if_neg hempty, if_neg hempty]
    cases w.db.accept .queries
        (Tbl.onUpdate (clock (w.tick + 1)) .queries old (queryOf params)) <;> rfl

variable {clock}

/-- Under an id that the table does not have. -/
theorem find_upserted_new (hnone : w.db.find .queries params.id = none) :
    (upserted clock w.next params).db.find .queries params.id =
      match w.db.accept .queries (Tbl.onInsert (clock (w.tick + 2)) .queries (queryOf params)) with
      | .ok row => some row
      | .error _ => none := by
  rw [upserted_new (w := w.next) clock hnone]
  simp only [World.next_db, World.next_tick]
  cases ha : w.db.accept .queries (Tbl.onInsert (clock (w.tick + 2)) .queries (queryOf params)) with
  | error e => simpa [ha] using hnone
  | ok row =>
    have hid : Tbl.queries.id row = params.id := by rw [(Db.accept_ok ha).1]; rfl
    rw [← hid] at hnone ⊢
    exact Db.find_append hnone

/-- Under an id that the table has. -/
theorem find_upserted_old {old : Query} (hold : w.db.find .queries params.id = some old)
    (hne : params.id ≠ "") :
    (upserted clock w.next params).db.find .queries params.id =
      match w.db.accept .queries
          (Tbl.onUpdate (clock (w.tick + 2)) .queries old (queryOf params)) with
      | .ok row => some row
      | .error _ => some old := by
  rw [upserted_old (w := w.next) clock hold, if_neg hne]
  simp only [World.next_db, World.next_tick]
  cases ha : w.db.accept .queries
      (Tbl.onUpdate (clock (w.tick + 2)) .queries old (queryOf params)) with
  | error e => simpa [ha] using hold
  | ok row =>
    have hid : Tbl.queries.id row = params.id := by
      have hkeep : Tbl.queries.id old = params.id := Db.find_id hold
      rw [(Db.accept_ok ha).1]
      exact hkeep
    exact Db.find_put hold hid

/-- Under a non-empty id, the query is found where the record says exactly when it lands. -/
theorem found_upserted_iff (hne : params.id ≠ "") :
    ((findBackendForQuery params.id).run (mysql (.available clock))
      (upserted clock w.next params)).1 = some (.ok (params.backendId, params.groupId)) ↔
      Lands clock w params := by
  rw [run_findBackendForQuery]
  unfold Lands
  cases hf : w.db.find .queries params.id with
  | none =>
    rw [find_upserted_new hf]
    unfold TakesNew
    cases ha : w.db.accept .queries
        (Tbl.onInsert (clock (w.tick + 2)) .queries (queryOf params)) with
    | error e => simp [Except.toBool]
    | ok row =>
      refine iff_of_true ?_ rfl
      rw [(Db.accept_ok ha).1]
      rfl
  | some old =>
    rw [find_upserted_old hf hne]
    unfold TakesOver
    cases ha : w.db.accept .queries
        (Tbl.onUpdate (clock (w.tick + 2)) .queries old (queryOf params)) with
    | error e => simp [Except.toBool, ha]
    | ok row =>
      -- the merged record keeps the old backend and group where the new ones are empty
      have hb : row.backendId = nonZero "" params.backendId old.backendId := by
        rw [(Db.accept_ok ha).1]
        rfl
      have hg : row.groupId = nonZero "" params.groupId old.groupId := by
        rw [(Db.accept_ok ha).1]
        rfl
      simp [Except.toBool, ha, hb, hg, nonZero_eq_iff]

/-- Without an upsert the query is found where the record says exactly when it is known. -/
theorem found_iff_known (w : World) (params : QueryApi.QueryCreateParams) :
    ((findBackendForQuery params.id).run (mysql (.available clock)) w).1 =
      some (.ok (params.backendId, params.groupId)) ↔ Known w params := by
  rw [run_findBackendForQuery]
  unfold Known
  cases w.db.find .queries params.id with
  | none => simp
  | some old => simp

/-- Under the empty id, an insertion is the only write. -/
theorem queries_upserted_empty (hid : params.id = "") :
    (upserted clock w.next params).db.queries = w.db.queries ↔ ¬ Adds clock w params := by
  unfold Adds
  cases hf : w.db.find .queries params.id with
  | some old =>
    rw [upserted_old (w := w.next) clock hf, if_pos hid]
    exact iff_of_true rfl (by simp)
  | none =>
    rw [upserted_new (w := w.next) clock hf]
    simp only [World.next_db, World.next_tick, TakesNew]
    cases w.db.accept .queries
        (Tbl.onInsert (clock (w.tick + 2)) .queries (queryOf params)) with
    | error e => exact iff_of_true rfl (by simp [Except.toBool])
    | ok row =>
      refine iff_of_false (fun h => ?_) (by simp [Except.toBool])
      have hlen := congrArg List.length h
      simp [Db.setRows] at hlen

end QueryApi

namespace RouterServer

open QueryApi

variable (gunzip : Gunzip) (r : RouterServer) (g : GatewayServer) (clock : ℕ → ℤ) (w : World)
  (resp : Response) (nt : QueryRequest)

/-- The key is `id`, in whatever case. -/
def IsIdKey (key : String) : Prop := key.toList.map Json.foldChar = ['i', 'd']

/-- The last string among the members that is named `id` is `q`. -/
def LastId (ms : List (String × Json)) (q : String) : Prop :=
  ∃ pre key post, ms = pre ++ (key, .str q) :: post ∧ IsIdKey key ∧
    ∀ k s, (k, Json.str s) ∈ post → ¬ IsIdKey k

/-- The text is a JSON object with the id `q`. -/
def HasId (body q : String) : Prop :=
  ∃ ms, Json.parse body = some (.obj ms) ∧ LastId ms q

/-- The decoded body of the response has the id `q`. -/
def HasResponseId (q : String) : Prop :=
  ∃ body restored, parseHttpPayloadBody gunzip resp.body (resp.header.get "Content-Encoding") =
    some (.ok body, restored) ∧ HasId body q

/-- The world after the save that the response to a submission starts. -/
def savedWorld : World :=
  match r.processResponse gunzip resp (some (.query nt)) with
  | some (_, some save) => ((g.onServer (saveQuery save)).run (mysql (.available clock)) w).2
  | _ => w

/-- The query of the response is findable afterwards, at the backend and the group of its
submission; without an id the queries are as they were. -/
def SavedRight : Prop :=
  (∀ q, q ≠ "" → HasResponseId gunzip resp q →
    ((findBackendForQuery q).run (mysql (.available clock))
      (savedWorld gunzip r g clock w resp nt)).1 =
        some (.ok (nt.query.backendId, nt.query.groupId))) ∧
  ((∀ q, q ≠ "" → ¬ HasResponseId gunzip resp q) →
    (savedWorld gunzip r g clock w resp nt).db.queries = w.db.queries)

/-- The record that is saved. -/
def savedParams (id : String) : QueryMsg :=
  { nt.query with id := id, submittedAt := clock w.tick }

/-- The condition: the record's text can be sent and the table takes the record under the
response's id, or has it there already; where there is no id, there is nothing to save, or it
cannot be sent, or the table does not take it. -/
def RecordFits : Prop :=
  (∀ q, q ≠ "" → HasResponseId gunzip resp q →
    if nt.utf8 then Lands clock w (savedParams clock w nt q) else Known w (savedParams clock w nt q)) ∧
  ((∀ q, q ≠ "" → ¬ HasResponseId gunzip resp q) →
    parseHttpPayloadBody gunzip resp.body (resp.header.get "Content-Encoding") = none ∨
      nt.utf8 = false ∨ ¬ Adds clock w (savedParams clock w nt ""))

/-- The id that the code saves under. -/
def responseId : String :=
  match parseHttpPayloadBody gunzip resp.body (resp.header.get "Content-Encoding") with
  | some (.ok body, _) => extractQueryIdFromServerResponse body
  | _ => ""

/-- A string named `id` at the end is the last one. -/
theorem lastId_append_str {ms : List (String × Json)} {k s q : String} (hk : IsIdKey k) :
    LastId (ms ++ [(k, .str s)]) q ↔ s = q := by
  constructor
  · rintro ⟨pre, key, post, h, -, hpost⟩
    rcases List.eq_nil_or_concat post with rfl | ⟨post, last, rfl⟩
    · obtain ⟨-, hlast⟩ := List.append_inj' h rfl
      have heq : k = key ∧ s = q := by simpa using hlast
      exact heq.2
    · have h' : ms ++ [(k, .str s)] = (pre ++ (key, .str q) :: post) ++ [last] := by simpa using h
      obtain ⟨-, hlast⟩ := List.append_inj' h' rfl
      obtain rfl : (k, Json.str s) = last := by simpa using hlast
      exact absurd hk (hpost k s (by simp))
  · rintro rfl
    exact ⟨ms, k, [], rfl, hk, fun k s hk => by cases hk⟩

/-- Another member at the end does not count. -/
theorem lastId_append {ms : List (String × Json)} {k q : String} {v : Json}
    (hv : IsIdKey k → ∀ s, v ≠ .str s) : LastId (ms ++ [(k, v)]) q ↔ LastId ms q := by
  constructor
  · rintro ⟨pre, key, post, h, hkey, hpost⟩
    rcases List.eq_nil_or_concat post with rfl | ⟨post, last, rfl⟩
    · obtain ⟨-, hlast⟩ := List.append_inj' h rfl
      obtain ⟨rfl, rfl⟩ : k = key ∧ v = .str q := by simpa using hlast
      exact absurd rfl (hv hkey q)
    · have h' : ms ++ [(k, v)] = (pre ++ (key, .str q) :: post) ++ [last] := by simpa using h
      obtain ⟨hms, -⟩ := List.append_inj' h' rfl
      exact ⟨pre, key, post, hms, hkey, fun k s hk => hpost k s (by simp [hk])⟩
  · rintro ⟨pre, key, post, rfl, hkey, hpost⟩
    refine ⟨pre, key, post ++ [(k, v)], by simp, hkey, fun k' s hk' => ?_⟩
    rcases List.mem_append.mp hk' with hk' | hk'
    · exact hpost k' s hk'
    · obtain ⟨rfl, rfl⟩ : k' = k ∧ Json.str s = v := by simpa using hk'
      exact fun hkey => hv hkey s rfl

/-- The field of a decoded object: each string named `id` takes the place of the one before. -/
theorem stringField_append_str {ms : List (String × Json)} {k s : String} (hk : IsIdKey k) :
    (Json.obj (ms ++ [(k, .str s)])).stringField "Id" = s := by
  have hname : k.toList.map Json.foldChar = "Id".toList.map Json.foldChar := hk
  simp [Json.stringField, Json.fieldsNamed, hname]

theorem stringField_append {ms : List (String × Json)} {k : String} {v : Json}
    (hv : IsIdKey k → ∀ s, v ≠ .str s) :
    (Json.obj (ms ++ [(k, v)])).stringField "Id" = (Json.obj ms).stringField "Id" := by
  simp only [Json.stringField, Json.fieldsNamed, List.filterMap_append, List.foldl_append]
  by_cases hk : k.toList.map Json.foldChar = "Id".toList.map Json.foldChar
  · cases v with
    | str s => exact absurd rfl (hv hk s)
    | _ => simp [hk]
  · have hnone : [(k, v)].filterMap (fun m : String × Json =>
        if m.1.toList.map Json.foldChar = "Id".toList.map Json.foldChar then some m.2 else none) =
        [] := by
      simp only [List.filterMap_cons, if_neg hk, List.filterMap_nil]
    rw [hnone, List.foldl_nil]

/-- The field is the last string that is named `id`. -/
theorem stringField_id_iff {ms : List (String × Json)} {q : String} (hq : q ≠ "") :
    (Json.obj ms).stringField "Id" = q ↔ LastId ms q := by
  -- from the last member on
  induction ms using List.reverseRecOn with
  | nil =>
    refine iff_of_false (fun h => hq h.symm) ?_
    rintro ⟨pre, key, post, h, -⟩
    simp at h
  | append_singleton ms m ih =>
    obtain ⟨k, v⟩ := m
    by_cases hstr : IsIdKey k ∧ ∃ s, v = .str s
    · obtain ⟨hk, s, rfl⟩ := hstr
      rw [stringField_append_str hk, lastId_append_str hk]
    · have hv : IsIdKey k → ∀ s, v ≠ .str s := fun hk s hs => hstr ⟨hk, s, hs⟩
      rw [stringField_append hv, lastId_append hv]
      exact ih

/-- **The extractor finds the id that the object has.** -/
theorem extractQueryId_iff {body q : String} (hq : q ≠ "") :
    extractQueryIdFromServerResponse body = q ↔ HasId body q := by
  unfold extractQueryIdFromServerResponse HasId
  cases hbody : Json.parse body with
  | none => exact iff_of_false (fun h => hq h.symm) (by simp)
  | some value =>
    cases value with
    | obj ms => simp only [stringField_id_iff hq, Option.some.injEq, Json.obj.injEq,
        exists_eq_left']
    | _ => exact iff_of_false (fun h => hq h.symm) (by simp)

variable {gunzip resp} in
theorem hasResponseId_iff {q : String} (hq : q ≠ "") :
    HasResponseId gunzip resp q ↔ responseId gunzip resp = q := by
  unfold HasResponseId responseId
  cases parseHttpPayloadBody gunzip resp.body (resp.header.get "Content-Encoding") with
  | none => exact iff_of_false (by simp) fun h => hq h.symm
  | some x =>
    obtain ⟨res, restored⟩ := x
    cases res with
    | error e => exact iff_of_false (by simp) fun h => hq h.symm
    | ok body => simp [extractQueryId_iff hq]

/-- Rewriting the location leaves the body's encoding alone. -/
theorem handleRedirect_encoding :
    (r.handleRedirect resp).header.get "Content-Encoding" = resp.header.get "Content-Encoding" := by
  unfold handleRedirect Header.get
  by_cases h : ((resp.header.values "Location").headD "") ≠ ""
  · simp only [if_pos h]
    rw [Header.values_set_of_ne (by decide)]
  · simp only [if_neg h]

theorem handleRedirect_body : (r.handleRedirect resp).body = resp.body := by
  unfold handleRedirect
  by_cases h : resp.header.get "Location" ≠ ""
  · simp only [if_pos h]
  · simp only [if_neg h]

/-- The goroutine reads the clock and saves, if the record can be sent. -/
theorem saveQuery_run (save : QuerySave) :
    ((g.onServer (saveQuery save)).run (mysql (.available clock)) w).2 =
      if save.utf8 then
        upserted clock w.next { save.req with
          id := extractQueryIdFromServerResponse save.body, submittedAt := clock w.tick }
      else w.next := by
  simp only [GatewayServer.onServer, saveQuery, bind_eq, perform_bind, interp_op,
    GatewayServer.serve, run_op, mysql_unixNow, Env.available_clock]
  cases save.utf8 with
  | true =>
    simp only [if_true, interp_op, GatewayServer.serve]
    rw [run_bind]
    unfold rpc
    rw [run_recover, run_createOrUpdateQuery]
    rfl
  | false => rfl

variable {gunzip r g clock w resp nt}

/-- The world after the save step. -/
theorem savedWorld_eq (h : 200 ≤ resp.statusCode ∧ resp.statusCode < 300) :
    savedWorld gunzip r g clock w resp nt =
      if parseHttpPayloadBody gunzip resp.body (resp.header.get "Content-Encoding") = none then w
      else if nt.utf8 then upserted clock w.next (savedParams clock w nt (responseId gunzip resp))
      else w.next := by
  have hle : 200 ≤ resp.statusCode ∧ resp.statusCode < 400 := ⟨h.1, by omega⟩
  have hnone : extractQueryIdFromServerResponse "" = "" := by decide
  unfold savedWorld processResponse
  rw [if_pos hle]
  simp only [if_pos h.2, handleRedirect_encoding, handleRedirect_body]
  unfold responseId
  cases hp : parseHttpPayloadBody gunzip resp.body (resp.header.get "Content-Encoding") with
  | none => rfl
  | some x =>
    obtain ⟨res, restored⟩ := x
    rw [if_neg (by simp)]
    simp only [Option.map_some, saveQuery_run]
    cases res with
    | error e =>
      -- an unreadable body counts as empty, and the empty text has no id
      simp only [Except.toOption, Option.getD_none, hnone]
      rfl
    | ok body => rfl

/-- The save step of a response with an id. -/
theorem found_savedWorld_iff (h : 200 ≤ resp.statusCode ∧ resp.statusCode < 300) {q : String}
    (hq : q ≠ "") (hid : responseId gunzip resp = q) :
    ((findBackendForQuery q).run (mysql (.available clock))
      (savedWorld gunzip r g clock w resp nt)).1 =
        some (.ok (nt.query.backendId, nt.query.groupId)) ↔
      if nt.utf8 then Lands clock w (savedParams clock w nt q)
      else Known w (savedParams clock w nt q) := by
  have hp : parseHttpPayloadBody gunzip resp.body (resp.header.get "Content-Encoding") ≠ none := by
    intro hp
    rw [responseId, hp] at hid
    exact hq hid.symm
  have hne : (savedParams clock w nt q).id ≠ "" := hq
  rw [savedWorld_eq h, if_neg hp, hid]
  cases nt.utf8 with
  | true => exact found_upserted_iff hne
  | false => exact found_iff_known w.next (savedParams clock w nt q)

/-- The save step of a response without an id. -/
theorem queries_savedWorld_iff (h : 200 ≤ resp.statusCode ∧ resp.statusCode < 300)
    (hid : responseId gunzip resp = "") :
    (savedWorld gunzip r g clock w resp nt).db.queries = w.db.queries ↔
      parseHttpPayloadBody gunzip resp.body (resp.header.get "Content-Encoding") = none ∨
        nt.utf8 = false ∨ ¬ Adds clock w (savedParams clock w nt "") := by
  rw [savedWorld_eq h, hid]
  by_cases hp : parseHttpPayloadBody gunzip resp.body (resp.header.get "Content-Encoding") = none
  · rw [if_pos hp]
    exact iff_of_true rfl (Or.inl hp)
  · rw [if_neg hp, or_iff_right hp]
    cases nt.utf8 with
    | true =>
      rw [if_pos rfl, queries_upserted_empty rfl]
      simp
    | false => exact iff_of_true rfl (Or.inl rfl)

/-- A gateway server that ranges over maps in the order of their keys. -/
def sortedServer : GatewayServer where
  cfg := { defaultRoutingGroup := "adhoc", statsValiditySecs := 0 }
  ord :=
    { keys := fun s => s.sort (· ≤ ·)
      nodup := fun s => s.sort_nodup (· ≤ ·)
      mem_keys := fun s _ => s.mem_sort (· ≤ ·) }

/-- One group with one backend. -/
def oneCluster : World :=
  { db := { backends := [{ id := "trino-1" }], groups := [{ id := "adhoc" }] } }

/-- The answer of a backend to a submission. -/
def createdResponse : Response :=
  { statusCode := 200
    body := { bytes := "\x7b\"id\": \"q1\"\x7d".toList.map fun c => UInt8.ofNat c.toNat } }

/-- A submission that was routed to the cluster. -/
def routedQuery (text : String) : QueryRequest :=
  { headerConnectionProperties := ""
    headerClientTags := ""
    incomingPort := 8080
    transactionId := ""
    clientHost := "gateway"
    query := { text := text, username := "alice", backendId := "trino-1", groupId := "adhoc" } }

/-- The id of the answer. -/
theorem createdResponse_id :
    responseId (fun bytes => .ok bytes) createdResponse = "q1" := by
  decide

end RouterServer

end TrinoGateway

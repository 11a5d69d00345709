import RollupLedger.Proofs.Request.Custody

/-!
# What passes between requests and a node

An `Exchange` is something that was asked of a node, with its reply. A node that is asked one thing
after another gives one list of replies (`Responder.converse`), so what was sent determines all that
was said. `World.Says w xs w₁` tells that just these exchanges took place on the way from one world
to another: they were added to the journal, in their order, and left the node in its new state.
-/

set_option autoImplicit false
set_option relaxedAutoImplicit false

namespace RollupLedger

inductive Exchange where
  | call (call : Call) (reply : CallReply)
  | batch (calls : List Call) (reply : BatchReply)
  | query (document : String) (reply : Except String String)

/-- What was asked. -/
def Exchange.request : Exchange → Request
  | call c _ => .call c
  | batch cs _ => .batch cs
  | query document _ => .query document

namespace Exchange

/-- The calls of an exchange with the values they brought, if each of them brought one. A batch
whose replies are too few or too many brings none. -/
def answers? : Exchange → Option (List (Call × Json))
  | .call c (.ok value) => some [(c, value)]
  | .batch cs (.ok replies) =>
    if replies.length = cs.length then (replies.mapM Except.toOption).map cs.zip else none
  | _ => none

def answers (x : Exchange) : List (Call × Json) := x.answers?.getD []

/-- Each call of an exchange brought a value, and none of them null. -/
def IsFull (x : Exchange) : Prop :=
  ∃ answers, x.answers? = some answers ∧ ∀ a ∈ answers, a.2.isNull = false

theorem answers?_batch {cs : List Call} {values : List Json} (hlength : values.length = cs.length) :
    (batch cs (.ok (values.map .ok))).answers? = some (cs.zip values) := by
  have hvalues :
      (values.map (Except.ok : Json → CallReply)).mapM Except.toOption = some values := by
    rw [mapM_eq_some_iff, List.map_map]
    rfl
  simp only [answers?, List.length_map, hlength, if_true, hvalues, Option.map_some]

end Exchange

/-- The requests that a journal records as sent, in their order. -/
def sentRequests (journal : List JournalEntry) : List Request :=
  journal.filterMap fun entry ↦ entry.sent?.map Prod.fst

variable {σ α : Type}

namespace Responder

/-- Asks a node one thing. -/
def serve (node : Responder σ) (state : σ) : Request → Exchange × σ
  | .call c => (.call c (node.call c state).1.reply, (node.call c state).2)
  | .batch cs => (.batch cs (node.batch cs state).1.reply, (node.batch cs state).2)
  | .query document =>
    (.query document (node.query document state).1.reply, (node.query document state).2)

/-- Asks a node one thing after another. -/
def converse (node : Responder σ) (state : σ) : List Request → List Exchange × σ
  | [] => ([], state)
  | request :: rest =>
    ((node.serve state request).1 :: (node.converse (node.serve state request).2 rest).1,
      (node.converse (node.serve state request).2 rest).2)

theorem converse_append (node : Responder σ) (state : σ) (first rest : List Request) :
    node.converse state (first ++ rest) =
      ((node.converse state first).1 ++ (node.converse (node.converse state first).2 rest).1,
        (node.converse (node.converse state first).2 rest).2) := by
  induction first generalizing state with
  | nil => rfl
  | cons request others ih => simp only [List.cons_append, converse, ih]

end Responder

namespace World

structure Says (w : World σ) (xs : List Exchange) (w₁ : World σ) : Prop where
  node : w₁.node = w.node
  asked : sentRequests w₁.journal = sentRequests w.journal ++ xs.map Exchange.request
  told : w.node.converse w.state (xs.map Exchange.request) = (xs, w₁.state)

variable {w w₁ w₂ : World σ} {xs ys : List Exchange}

theorem Says.trans (hfirst : w.Says xs w₁) (hthen : w₁.Says ys w₂) : w.Says (xs ++ ys) w₂ where
  node := hthen.node.trans hfirst.node
  asked := by rw [hthen.asked, hfirst.asked, List.map_append, List.append_assoc]
  told := by
    have htold := hthen.told
    rw [hfirst.node] at htold
    rw [List.map_append, Responder.converse_append, hfirst.told]
    simp only [htold]

/-- Nothing is said where neither the journal's requests nor the node change. -/
theorem says_nil (hnode : w₁.node = w.node) (hjournal : w₁.journal = w.journal)
    (hstate : w₁.state = w.state) : w.Says [] w₁ where
  node := hnode
  asked := by rw [hjournal, List.map_nil, List.append_nil]
  told := by rw [hstate]; rfl

theorem says_refl (w : World σ) : w.Says [] w := says_nil rfl rfl rfl

theorem says_note (w : World σ) (block : Option String) (event : Event) :
    w.Says [] (w.note block event) where
  node := rfl
  asked := by simp [note, sentRequests, JournalEntry.sent?]
  told := rfl

theorem says_gate (w : World σ) (gate : Gate) : w.Says [] { w with gate := gate } :=
  says_nil rfl rfl rfl

theorem says_land (w : World σ) (flight : Flight) : w.Says [] (w.land flight) :=
  says_nil rfl rfl rfl

theorem sentRequests_record (w : World σ) (block : Option String) (request : Request) :
    sentRequests (w.record block request).journal = sentRequests w.journal ++ [request] := by
  simp [record, sentRequests, JournalEntry.sent?]

theorem says_sendCall (w : World σ) (block : Option String) (c : Call) :
    w.Says [.call c (w.sendCall block c).1.reply] (w.sendCall block c).2 :=
  ⟨rfl, sentRequests_record w block (.call c), rfl⟩

theorem says_sendBatch (w : World σ) (block : Option String) (cs : List Call) :
    w.Says [.batch cs (w.sendBatch block cs).1.reply] (w.sendBatch block cs).2 :=
  ⟨rfl, sentRequests_record w block (.batch cs), rfl⟩

theorem says_sendQuery (w : World σ) (block : Option String) (document : String) :
    w.Says [.query document (w.sendQuery block document).1.reply] (w.sendQuery block document).2 :=
  ⟨rfl, sentRequests_record w block (.query document), rfl⟩

end World

/-! ### The exchanges of jobs -/

/-- What a job makes of its exchange. A single call brings a batch of one. -/
def Job.Brings (job : Job) (x : Exchange) (reply : BatchReply) : Prop :=
  match job.batched, job.calls with
  | false, [c] => ∃ single, x = .call c single ∧ reply = single.map fun value ↦ [.ok value]
  | _, cs => x = .batch cs reply

theorem World.says_sendJob (w : World σ) (block : Option String) (job : Job) :
    ∃ x, w.Says [x] (w.sendJob block job).2 ∧ job.Brings x (w.sendJob block job).1.reply := by
  obtain ⟨units, batched, calls⟩ := job
  cases batched with
  | true => exact ⟨_, says_sendBatch w block calls, rfl⟩
  | false =>
    cases calls with
    | nil => exact ⟨_, says_sendBatch w block [], rfl⟩
    | cons c rest =>
      cases rest with
      | nil => exact ⟨_, says_sendCall w block c, _, rfl, rfl⟩
      | cons other others => exact ⟨_, says_sendBatch w block _, rfl⟩

/-! ### Giving up says nothing -/

theorem Slot.says_drop (w : World σ) (slot : Slot) : w.Says [] (slot.drop w) := by
  cases slot <;> exact World.says_nil rfl rfl rfl

theorem LaneRun.says_drop (w : World σ) (run : LaneRun) : w.Says [] (run.drop w) := by
  unfold drop
  induction run.slots generalizing w with
  | nil => exact World.says_refl w
  | cons s rest ih => exact (s.2.says_drop w).trans (ih (s.2.drop w))

theorem Run.says_drop (w : World σ) (run : Run α) : w.Says [] (run.drop w) := by
  cases run with
  | done result => exact World.says_refl w
  | sleeping flight rest => exact World.says_land w flight
  | lanes left right next => exact (left.says_drop w).trans (right.says_drop (left.drop w))

theorem Progress.says_drop (w : World σ) (progress : Progress α) :
    w.Says [] (progress.drop w) := by
  cases progress with
  | running run => exact run.says_drop w
  | _ => exact World.says_refl w

theorem Hold.says_poll (w : World σ) (units : Nat) (hold : Hold) :
    w.Says [] (hold.poll w units).2 := by
  cases hold with
  | wanted =>
    simp only [poll]
    split <;> exact World.says_nil rfl rfl rfl
  | waiting ticket =>
    simp only [poll]
    split <;> exact World.says_refl w
  | _ => exact World.says_refl w

theorem Task.says_abandon (w : World σ) (why : Abandonment) (task : Task α) :
    w.Says [] (task.abandon w why).2 := by
  cases task with
  | request context block progress => exact progress.says_drop w
  | guard context units hold => cases hold <;> exact World.says_nil rfl rfl rfl

end RollupLedger

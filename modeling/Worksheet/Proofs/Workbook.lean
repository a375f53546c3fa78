import Mathlib.Data.List.Induction
import Mathlib.Data.List.Nodup
import Worksheet.Workbook

namespace Worksheet

/-!
A workbook is a list of documents to which documents are only added.  The counter
and the documents stay in step: the document made as the n-th has the number n and
is found under it.  A patch changes the one document that it is addressed to, so
what stands in its place is the draft with the patches that the place got since,
and a patch for a number not yet given out changes nothing.
-/

namespace Document

/-- What the last of some patches to name a part puts there. -/
def lastNamed (part : DocumentPatch → Option α) (patches : List (Instant × DocumentPatch)) :
    Option α :=
  patches.reverse.findSome? fun entry => part entry.2

/-- A draft under a number, with patches laid over it at their times: every part
is that of the last patch that names it, or else that of the draft. -/
def revised (id : UInt64) (draft : DocumentDraft) (patches : List (Instant × DocumentPatch)) :
    Document :=
  { id
    name := (lastNamed (·.name) patches).or draft.name
    data := (lastNamed (·.data) patches).getD draft.data
    columnWidths := (lastNamed (·.columnWidths) patches).or draft.columnWidths
    rowHeights := (lastNamed (·.rowHeights) patches).or draft.rowHeights
    lastModified := patches.getLast?.map Prod.fst }

variable {id : UInt64} {draft : DocumentDraft} {patches : List (Instant × DocumentPatch)}

theorem lastNamed_append (part : DocumentPatch → Option α)
    (patches : List (Instant × DocumentPatch)) (now : Instant) (patch : DocumentPatch) :
    lastNamed part (patches ++ [(now, patch)]) = (part patch).or (lastNamed part patches) := by
  rw [lastNamed, List.reverse_append, List.reverse_singleton, List.singleton_append,
    List.findSome?_cons]
  cases part patch <;> rfl

theorem revised_nil (id : UInt64) (draft : DocumentDraft) :
    revised id draft [] = ofDraft id draft :=
  rfl

/-- One more patch is the patch of the document so far. -/
theorem revised_append (now : Instant) (patch : DocumentPatch) :
    revised id draft (patches ++ [(now, patch)]) = (revised id draft patches).patch now patch := by
  have replaced (first second : Option Grid) (rest : Grid) :
      (first.or second).getD rest = first.getD (second.getD rest) := by
    cases first <;> rfl
  simp only [revised, lastNamed_append, Option.or_assoc, replaced, Document.patch, stamp,
    List.getLast?_append, List.getLast?_singleton, Option.orElse_eq_orElse, Option.orElse_eq_or]
  rfl

end Document

namespace Workbook

/-! ## Documents by place -/

/-- The document of a list whose place, counted from one, is a number. -/
def documentAt? (documents : List Document) (id : UInt64) : Option Document :=
  if id = 0 then none else documents[id.toNat - 1]?

section Places

variable {documents : List Document} {document : Document} {id : UInt64}

theorem toNat_ne_zero (positive : id ≠ 0) : id.toNat ≠ 0 :=
  fun zero => positive (UInt64.toNat_inj.mp zero)

theorem isSome_documentAt?_iff :
    (documentAt? documents id).isSome ↔ 1 ≤ id.toNat ∧ id.toNat ≤ documents.length := by
  rw [documentAt?]
  by_cases zero : id = 0
  · rw [if_pos zero, zero]
    simp
  · have positive := toNat_ne_zero zero
    rw [if_neg zero, isSome_getElem?]
    omega

theorem getElem?_of_documentAt? (listed : documentAt? documents id = some document) :
    documents[id.toNat - 1]? = some document := by
  rw [documentAt?] at listed
  split at listed
  · cases listed
  · exact listed

theorem documentAt?_concat (documents : List Document) (document : Document) (id : UInt64) :
    documentAt? (documents ++ [document]) id =
      if id.toNat = documents.length + 1 then some document else documentAt? documents id := by
  rw [documentAt?, documentAt?]
  by_cases zero : id = 0
  · have different : ¬id.toNat = documents.length + 1 := by
      rw [zero]
      exact Nat.zero_ne_add_one _
    rw [if_pos zero, if_pos zero, if_neg different]
  · have positive := toNat_ne_zero zero
    have size : (documents ++ [document]).length = documents.length + 1 := by
      rw [List.length_append, List.length_singleton]
    rw [if_neg zero, if_neg zero]
    split
    · next last => rw [last, Nat.add_sub_cancel, List.getElem?_concat_length]
    · next different =>
      by_cases inside : id.toNat - 1 < documents.length
      · rw [List.getElem?_append_left inside]
      · rw [List.getElem?_eq_none (by omega), List.getElem?_eq_none (by omega)]

theorem documentAt?_set (present : documentAt? documents id = some document)
    (changed : Document) (other : UInt64) :
    documentAt? (documents.set (id.toNat - 1) changed) other =
      if id = other then some changed else documentAt? documents other := by
  have bounds := isSome_documentAt?_iff.mp (Option.isSome_of_eq_some present)
  by_cases zero : other = 0
  · have different : id ≠ other := by
      rintro rfl
      rw [zero] at bounds
      exact absurd bounds.1 (by decide)
    rw [documentAt?, documentAt?, if_pos zero, if_pos zero, if_neg different]
  · have positive := toNat_ne_zero zero
    rw [documentAt?, documentAt?, if_neg zero, if_neg zero]
    split
    · next same =>
      rw [← same, List.getElem?_set_self (by omega)]
    · next different =>
      have apart : id.toNat ≠ other.toNat := mt UInt64.toNat_inj.mp different
      rw [List.getElem?_set_ne (by omega)]

end Places

/-! ## The counter and the documents in step -/

/-- Whether a workbook holds a list of documents: the counter is one past them,
they are numbered from one, and each is found under its number. -/
structure Holds (workbook : Workbook) (documents : List Document) : Prop where
  next : workbook.next.toNat = documents.length + 1
  numbers : documents.map (·.id.toNat) = List.range' 1 documents.length
  found : ∀ id, workbook.get? id = documentAt? documents id

variable {workbook : Workbook} {documents : List Document} {document : Document} {id : UInt64}
  {now : Instant} {patch : DocumentPatch}

theorem holds_empty : empty.Holds [] where
  next := rfl
  numbers := rfl
  found := fun id => by
    rw [get?, empty, Std.HashMap.getElem?_empty, documentAt?, List.getElem?_nil, ite_self]

theorem Holds.next_eq (holds : workbook.Holds documents) :
    workbook.next = .ofNat (documents.length + 1) := by
  rw [← holds.next, UInt64.ofNat_toNat]

theorem Holds.create (holds : workbook.Holds documents)
    (room : documents.length + 1 < UInt64.size - 1) (draft : DocumentDraft) :
    (workbook.create draft).1.Holds (documents ++ [Document.ofDraft workbook.next draft]) where
  next := by
    have step : (workbook.create draft).1.next.toNat = (workbook.next.toNat + 1) % UInt64.size :=
      UInt64.toNat_add _ _
    rw [step, holds.next, List.length_append, List.length_singleton]
    exact Nat.mod_eq_of_lt (by omega)
  numbers := by
    have last : (Document.ofDraft workbook.next draft).id.toNat = 1 + documents.length := by
      rw [Nat.add_comm]
      exact holds.next
    rw [List.map_append, List.map_singleton, holds.numbers, last, List.length_append,
      List.length_singleton, List.range'_1_concat]
  found := fun id => by
    have inserted : (workbook.create draft).1.get? id =
        if workbook.next = id then some (Document.ofDraft workbook.next draft)
        else workbook.get? id := by
      simp only [get?, Workbook.create, Std.HashMap.getElem?_insert, beq_iff_eq]
    have last : workbook.next = id ↔ id.toNat = documents.length + 1 := by
      rw [← holds.next, UInt64.toNat_inj, eq_comm]
    rw [inserted, documentAt?_concat, holds.found]
    simp only [last]

/-- A document may be replaced by another with its number. -/
theorem Holds.insert (holds : workbook.Holds documents) (found : workbook.get? id = some document)
    {changed : Document} (same : changed.id = document.id) :
    ({ workbook with documents := workbook.documents.insert id changed } : Workbook).Holds
      (documents.set (id.toNat - 1) changed) := by
  have present : documentAt? documents id = some document := (holds.found id).symm.trans found
  refine ⟨?_, ?_, fun other => ?_⟩
  · rw [List.length_set]
    exact holds.next
  · have kept : (documents.map (·.id.toNat))[id.toNat - 1]? = some changed.id.toNat := by
      rw [List.getElem?_map, getElem?_of_documentAt? present, same, Option.map_some]
    rcases List.getElem?_eq_some_iff.mp kept with ⟨within, value⟩
    rw [List.map_set, List.length_set, ← value, List.set_getElem_self, holds.numbers]
  · rw [documentAt?_set present, ← holds.found]
    simp only [get?, Std.HashMap.getElem?_insert, beq_iff_eq]

theorem update_of_get? (found : workbook.get? id = some document) (now : Instant)
    (patch : DocumentPatch) :
    workbook.update now id patch =
      .ok ({ workbook with documents := workbook.documents.insert id (document.patch now patch) },
        document.patch now patch) := by
  rw [get?] at found
  rw [update, found]

/-- A patch is refused exactly if there is no document with the number. -/
theorem update_eq_error_iff {error : NotFound} :
    workbook.update now id patch = .error error ↔ error = ⟨id⟩ ∧ workbook.get? id = none := by
  rw [update, get?]
  cases workbook.documents[id]? with
  | none => simp [eq_comm]
  | some document => simp

/-! ## The listing -/

theorem Holds.toNat_of_getElem? (holds : workbook.Holds documents) {place : Nat}
    (listed : documents[place]? = some document) : document.id.toNat = 1 + place := by
  have within := (List.getElem?_eq_some_iff.mp listed).1
  have number := congrArg (·[place]?) holds.numbers
  simp only [List.getElem?_map, listed, List.getElem?_range' within, Option.map_some,
    Option.some.injEq] at number
  omega

theorem Holds.documentAt?_eq_some_iff (holds : workbook.Holds documents) :
    documentAt? documents id = some document ↔ document ∈ documents ∧ document.id = id := by
  constructor
  · intro listed
    have bounds := isSome_documentAt?_iff.mp (Option.isSome_of_eq_some listed)
    have number := holds.toNat_of_getElem? (getElem?_of_documentAt? listed)
    exact ⟨List.mem_of_getElem? (getElem?_of_documentAt? listed), UInt64.toNat_inj.mp (by omega)⟩
  · rintro ⟨member, rfl⟩
    rcases List.mem_iff_getElem?.mp member with ⟨place, listed⟩
    have number := holds.toNat_of_getElem? listed
    have positive : document.id ≠ 0 := by
      intro zero
      rw [zero, UInt64.toNat_zero] at number
      omega
    rw [documentAt?, if_neg positive, number, Nat.add_sub_cancel_left, listed]

/-- The documents are kept in no order, but each once and no others. -/
theorem Holds.entries_perm (holds : workbook.Holds documents) :
    workbook.documents.toList.Perm (documents.map fun document => (document.id, document)) := by
  have distinct : workbook.documents.toList.Nodup :=
    workbook.documents.distinct_keys_toList.imp fun different same => by
      rw [same, beq_self_eq_true] at different
      cases different
  have numbered : (documents.map fun document => (document.id, document)).Nodup := by
    refine List.Nodup.of_map (fun entry => entry.1.toNat) ?_
    rw [List.map_map]
    exact holds.numbers ▸ List.nodup_range'
  refine (List.perm_ext_iff_of_nodup distinct numbered).mpr fun (id, document) => ?_
  have found : workbook.documents[id]? = documentAt? documents id := holds.found id
  rw [Std.HashMap.mem_toList_iff_getElem?_eq_some, found, holds.documentAt?_eq_some_iff,
    List.mem_map]
  constructor
  · rintro ⟨member, rfl⟩
    exact ⟨document, member, rfl⟩
  · rintro ⟨other, member, same⟩
    cases same
    exact ⟨member, rfl⟩

theorem Holds.size (holds : workbook.Holds documents) : workbook.size = documents.length := by
  rw [Workbook.size, ← Std.HashMap.length_toList, holds.entries_perm.length_eq, List.length_map]

/-- The listing is in the order in which the documents were made. -/
theorem Holds.list (holds : workbook.Holds documents) :
    workbook.list = documents.map fun document => (document.id, document.displayName) := by
  let shown (document : Document) : UInt64 × String := (document.id, document.displayName)
  have perm : workbook.list.Perm (documents.map shown) := by
    have mapped := holds.entries_perm.map fun entry => shown entry.2
    rw [List.map_map] at mapped
    exact (List.mergeSort_perm _ _).trans mapped
  have ascending : (documents.map shown).Pairwise fun first second => first.1 < second.1 := by
    have numbers : (documents.map (·.id.toNat)).Pairwise (· < ·) :=
      holds.numbers ▸ List.pairwise_lt_range'
    rw [List.pairwise_map] at numbers ⊢
    exact numbers
  have distinct : ((documents.map shown).map Prod.fst).Nodup :=
    List.pairwise_map.mpr (ascending.imp UInt64.ne_of_lt)
  have sorted : workbook.list.Pairwise fun first second => first.1 ≤ second.1 := by
    refine (List.pairwise_mergeSort ?_ ?_ _).imp of_decide_eq_true
    · exact fun first second third before after => decide_eq_true
        (UInt64.le_trans (of_decide_eq_true before) (of_decide_eq_true after))
    · exact fun first second => by
        simpa using UInt64.le_total first.1 second.1
  -- Numbers are not repeated, so only one order of the entries is ascending.
  refine perm.eq_of_pairwise (fun first second member member' before after => ?_) sorted
    (ascending.imp UInt64.le_of_lt)
  exact List.inj_on_of_nodup_map distinct (perm.mem_iff.mp member) member'
    (UInt64.le_antisymm before after)

/-! ## Sessions -/

/-- What a workbook can be asked for. -/
inductive Request where
  | create (draft : DocumentDraft)
  | update (now : Instant) (id : UInt64) (patch : DocumentPatch)
  | get (id : UInt64)
  | list
  | size

/-- What a workbook answers, for each kind of request. -/
inductive Answer where
  | created (document : Document)
  | updated (outcome : Except NotFound Document)
  | found (document : Option Document)
  | listed (entries : List (UInt64 × String))
  | counted (size : Nat)

/-- A workbook after a request, and its answer.  After a refusal it is as it
was. -/
def answer (workbook : Workbook) : Request → Workbook × Answer
  | .create draft =>
    let (next, document) := workbook.create draft
    (next, .created document)
  | .update now id patch =>
    match workbook.update now id patch with
    | .ok (next, document) => (next, .updated (.ok document))
    | .error error => (workbook, .updated (.error error))
  | .get id => (workbook, .found (workbook.get? id))
  | .list => (workbook, .listed workbook.list)
  | .size => (workbook, .counted workbook.size)

theorem answer_update_of_missing (missing : workbook.get? id = none) (now : Instant)
    (patch : DocumentPatch) :
    workbook.answer (.update now id patch) = (workbook, .updated (.error ⟨id⟩)) := by
  rw [answer, update_eq_error_iff.mpr ⟨rfl, missing⟩]

/-- A workbook with what it was asked and what it answered so far. -/
structure Session where
  workbook : Workbook := .empty
  exchanges : List (Request × Answer) := []

/-- A session continued by a request. -/
def Session.ask (session : Session) (request : Request) : Session :=
  let (workbook, answer) := session.workbook.answer request
  { workbook, exchanges := session.exchanges ++ [(request, answer)] }

/-- The session of a new workbook in which some requests are made. -/
def session (requests : List Request) : Session :=
  requests.foldl Session.ask {}

/-- The drafts of which documents are to be made. -/
def draftsOf (requests : List Request) : List DocumentDraft :=
  requests.filterMap fun
    | .create draft => some draft
    | _ => none

/-- The documents that were answered as new. -/
def createdIn (exchanges : List (Request × Answer)) : List Document :=
  exchanges.filterMap fun
    | (_, .created document) => some document
    | _ => none

/-- The patches that the document with a number took, with their times. -/
def patchesIn (exchanges : List (Request × Answer)) (number : Nat) :
    List (Instant × DocumentPatch) :=
  exchanges.filterMap fun
    | (.update now id patch, .updated (.ok _)) =>
      if id.toNat = number then some (now, patch) else none
    | _ => none

/-- The documents that an account of exchanges amounts to: the drafts in order,
each with the patches that were taken for its number. -/
def documentsOf (exchanges : List (Request × Answer)) : List Document :=
  (draftsOf (exchanges.map Prod.fst)).mapIdx fun place draft =>
    Document.revised (.ofNat (place + 1)) draft (patchesIn exchanges (place + 1))

section Accounts

variable {exchanges : List (Request × Answer)}

theorem draftsOf_append (requests later : List Request) :
    draftsOf (requests ++ later) = draftsOf requests ++ draftsOf later :=
  List.filterMap_append

theorem createdIn_append (exchanges later : List (Request × Answer)) :
    createdIn (exchanges ++ later) = createdIn exchanges ++ createdIn later :=
  List.filterMap_append

theorem patchesIn_append (exchanges later : List (Request × Answer)) (number : Nat) :
    patchesIn (exchanges ++ later) number = patchesIn exchanges number ++ patchesIn later number :=
  List.filterMap_append

theorem patchesIn_update (now : Instant) (id : UInt64) (patch : DocumentPatch)
    (document : Document) (number : Nat) :
    patchesIn [(.update now id patch, .updated (.ok document))] number =
      if id.toNat = number then [(now, patch)] else [] := by
  by_cases same : id.toNat = number <;> simp [patchesIn, same]

theorem length_documentsOf (exchanges : List (Request × Answer)) :
    (documentsOf exchanges).length = (draftsOf (exchanges.map Prod.fst)).length :=
  List.length_mapIdx

theorem getElem?_documentsOf (exchanges : List (Request × Answer)) (place : Nat) :
    (documentsOf exchanges)[place]? = (draftsOf (exchanges.map Prod.fst))[place]?.map fun draft =>
      Document.revised (.ofNat (place + 1)) draft (patchesIn exchanges (place + 1)) :=
  List.getElem?_mapIdx

/-- An exchange that neither makes nor changes a document leaves all documents
as they are. -/
theorem documentsOf_append_other {exchange : Request × Answer}
    (drafts : draftsOf [exchange.1] = []) (patches : ∀ number, patchesIn [exchange] number = []) :
    documentsOf (exchanges ++ [exchange]) = documentsOf exchanges := by
  simp only [documentsOf, List.map_append, List.map_singleton, draftsOf_append, drafts,
    patchesIn_append, patches, List.append_nil]

theorem documentsOf_append_create (draft : DocumentDraft) (document : Document)
    (fresh : patchesIn exchanges ((documentsOf exchanges).length + 1) = []) :
    documentsOf (exchanges ++ [(.create draft, .created document)]) =
      documentsOf exchanges ++
        [Document.ofDraft (.ofNat ((documentsOf exchanges).length + 1)) draft] := by
  have patches (number : Nat) : patchesIn [(.create draft, .created document)] number = [] := rfl
  have drafts : draftsOf [.create draft] = [draft] := rfl
  rw [length_documentsOf] at fresh ⊢
  simp only [documentsOf, List.map_append, List.map_singleton, draftsOf_append, drafts,
    patchesIn_append, patches, List.append_nil, List.mapIdx_concat, fresh, Document.revised_nil]

theorem documentsOf_append_update {id : UInt64} {document : Document} (now : Instant)
    (patch : DocumentPatch) (listed : documentAt? (documentsOf exchanges) id = some document) :
    documentsOf
        (exchanges ++ [(.update now id patch, .updated (.ok (document.patch now patch)))]) =
      (documentsOf exchanges).set (id.toNat - 1) (document.patch now patch) := by
  have drafts : draftsOf [.update now id patch] = [] := rfl
  have bounds := isSome_documentAt?_iff.mp (Option.isSome_of_eq_some listed)
  have here := getElem?_of_documentAt? listed
  refine List.ext_getElem? fun place => ?_
  rw [getElem?_documentsOf, patchesIn_append, patchesIn_update, List.map_append, draftsOf_append,
    List.map_singleton, drafts, List.append_nil, List.getElem?_set]
  by_cases same : id.toNat = place + 1
  · have target : id.toNat - 1 = place := by omega
    rw [target, getElem?_documentsOf] at here
    rcases Option.map_eq_some_iff.mp here with ⟨draft, drafted, revised⟩
    rw [if_pos same, if_pos target, if_pos (by omega), drafted, Option.map_some,
      Document.revised_append, revised]
  · rw [if_neg same, if_neg (by omega), List.append_nil, getElem?_documentsOf]

end Accounts

theorem session_append (requests : List Request) (request : Request) :
    session (requests ++ [request]) = (session requests).ask request := by
  rw [session, List.foldl_append]
  rfl

theorem map_fst_exchanges (requests : List Request) :
    (session requests).exchanges.map Prod.fst = requests := by
  induction requests using List.reverseRecOn with
  | nil => rfl
  | append_singleton requests request ih =>
    rw [session_append, Session.ask, List.map_append, ih]
    rfl

/-- Whether a session is accounted for by its exchanges: the workbook holds the
documents that they amount to, each was answered as the draft under its number
when it was made, and no patch was taken for a number not given out. -/
structure Session.Accounted (session : Session) : Prop where
  holds : session.workbook.Holds (documentsOf session.exchanges)
  created : createdIn session.exchanges =
    (draftsOf (session.exchanges.map Prod.fst)).mapIdx fun place draft =>
      Document.ofDraft (.ofNat (place + 1)) draft
  fresh : ∀ number, (documentsOf session.exchanges).length < number →
    patchesIn session.exchanges number = []

namespace Session.Accounted

variable {session : Session} {exchange : Request × Answer}

/-- What is answered to other requests does not count among the documents made. -/
theorem created_append_other (accounted : session.Accounted) (drafts : draftsOf [exchange.1] = [])
    (created : createdIn [exchange] = []) :
    createdIn (session.exchanges ++ [exchange]) =
      (draftsOf ((session.exchanges ++ [exchange]).map Prod.fst)).mapIdx fun place draft =>
        Document.ofDraft (.ofNat (place + 1)) draft := by
  rw [createdIn_append, created, List.append_nil, List.map_append, draftsOf_append,
    List.map_singleton, drafts, List.append_nil]
  exact accounted.created

theorem append_other (accounted : session.Accounted) (drafts : draftsOf [exchange.1] = [])
    (created : createdIn [exchange] = []) (patches : ∀ number, patchesIn [exchange] number = []) :
    Session.Accounted ⟨session.workbook, session.exchanges ++ [exchange]⟩ where
  holds := by
    rw [documentsOf_append_other drafts patches]
    exact accounted.holds
  created := accounted.created_append_other drafts created
  fresh := fun number beyond => by
    rw [documentsOf_append_other drafts patches] at beyond
    rw [patchesIn_append, patches, List.append_nil]
    exact accounted.fresh number beyond

theorem create (accounted : session.Accounted) (draft : DocumentDraft)
    (room : (documentsOf session.exchanges).length + 1 < UInt64.size - 1) :
    (session.ask (.create draft)).Accounted := by
  have next := accounted.holds.next_eq
  have fresh := accounted.fresh _ (Nat.lt_succ_self _)
  have grown : documentsOf (session.ask (.create draft)).exchanges = _ :=
    documentsOf_append_create draft (session.workbook.create draft).2 fresh
  refine ⟨?_, ?_, fun number beyond => ?_⟩
  · rw [grown, ← next]
    exact accounted.holds.create room draft
  · have drafts : draftsOf [.create draft] = [draft] := rfl
    have created : createdIn (session.ask (.create draft)).exchanges =
        createdIn session.exchanges ++ [Document.ofDraft session.workbook.next draft] :=
      createdIn_append _ _
    have requests : (session.ask (.create draft)).exchanges.map Prod.fst =
        session.exchanges.map Prod.fst ++ [.create draft] :=
      List.map_append
    rw [created, accounted.created, requests, draftsOf_append, drafts, List.mapIdx_concat, next,
      length_documentsOf]
  · rw [grown, List.length_append, List.length_singleton] at beyond
    have before := accounted.fresh number (by omega)
    exact (patchesIn_append _ _ _).trans (by rw [before]; rfl)

theorem update (accounted : session.Accounted) {id : UInt64} {document : Document}
    (found : session.workbook.get? id = some document) (now : Instant) (patch : DocumentPatch) :
    (session.ask (.update now id patch)).Accounted := by
  have listed : documentAt? (documentsOf session.exchanges) id = some document :=
    (accounted.holds.found id).symm.trans found
  have step : session.ask (.update now id patch) =
      ⟨{ session.workbook with
          documents := session.workbook.documents.insert id (document.patch now patch) },
        session.exchanges ++
          [(.update now id patch, .updated (.ok (document.patch now patch)))]⟩ := by
    rw [Session.ask, answer, update_of_get? found]
  have changed := documentsOf_append_update now patch listed
  rw [step]
  refine ⟨?_, ?_, fun number beyond => ?_⟩
  · rw [changed]
    exact accounted.holds.insert found rfl
  · exact accounted.created_append_other rfl rfl
  · have bounds := isSome_documentAt?_iff.mp (Option.isSome_of_eq_some listed)
    rw [changed, List.length_set] at beyond
    rw [patchesIn_append, accounted.fresh number beyond, patchesIn_update, if_neg (by omega),
      List.append_nil]

/-- One request keeps a session accounted for, as long as there is a number left
for a new document. -/
theorem ask (accounted : session.Accounted) (request : Request)
    (room : (documentsOf (session.ask request).exchanges).length < UInt64.size - 1) :
    (session.ask request).Accounted := by
  cases request with
  | create draft =>
    refine accounted.create draft ?_
    have grown : (documentsOf (session.ask (.create draft)).exchanges).length =
        (documentsOf session.exchanges).length + 1 := by
      rw [length_documentsOf, length_documentsOf, Session.ask, List.map_append, draftsOf_append,
        List.length_append]
      rfl
    rwa [grown] at room
  | update now id patch =>
    cases found : session.workbook.get? id with
    | some document => exact accounted.update found now patch
    | none =>
      rw [Session.ask, answer_update_of_missing found]
      exact accounted.append_other rfl rfl fun _ => rfl
  | get id => exact accounted.append_other rfl rfl fun _ => rfl
  | list => exact accounted.append_other rfl rfl fun _ => rfl
  | size => exact accounted.append_other rfl rfl fun _ => rfl

end Session.Accounted

theorem accounted_empty : Session.Accounted {} where
  holds := holds_empty
  created := rfl
  fresh := fun _ _ => rfl

theorem accounted_session {requests : List Request}
    (few : (draftsOf requests).length < UInt64.size - 1) : (session requests).Accounted := by
  induction requests using List.reverseRecOn with
  | nil => exact accounted_empty
  | append_singleton requests request ih =>
    have before : (draftsOf requests).length < UInt64.size - 1 := by
      rw [draftsOf_append, List.length_append] at few
      omega
    rw [session_append]
    refine (ih before).ask request ?_
    rwa [← session_append, length_documentsOf, map_fst_exchanges]

/-- What a workbook shows of a list of documents: how many there are, their names
under the numbers from one on, and each under its number. -/
structure Shows (workbook : Workbook) (documents : List Document) : Prop where
  size : workbook.size = documents.length
  list : workbook.list = documents.map fun document => (document.id, document.displayName)
  numbers : workbook.list.map (·.1.toNat) = List.range' 1 documents.length
  get? : ∀ id, workbook.get? id = documentAt? documents id

theorem Holds.shows (holds : workbook.Holds documents) : workbook.Shows documents where
  size := holds.size
  list := holds.list
  numbers := by
    rw [holds.list, List.map_map]
    exact holds.numbers
  get? := holds.found

/-- Whether a session is that of a list of documents made from some drafts: the
n-th draft is answered with a document numbered n, and the workbook shows the
documents made so far, each with the patches that were taken for its number.  A
patch is refused exactly if its number was not given out, and then nothing
changes. -/
structure Session.IsListOf (session : Session) (drafts : List DocumentDraft) : Prop where
  created : createdIn session.exchanges =
    drafts.mapIdx fun place draft => Document.ofDraft (.ofNat (place + 1)) draft
  shows : session.workbook.Shows (drafts.mapIdx fun place draft =>
    Document.revised (.ofNat (place + 1)) draft (patchesIn session.exchanges (place + 1)))
  refuses : ∀ now id patch error, session.workbook.update now id patch = .error error ↔
    error = ⟨id⟩ ∧ ¬(1 ≤ id.toNat ∧ id.toNat ≤ drafts.length)
  unchanged : ∀ now id patch, ¬(1 ≤ id.toNat ∧ id.toNat ≤ drafts.length) →
    session.workbook.answer (.update now id patch) = (session.workbook, .updated (.error ⟨id⟩))

/-- Whatever a new workbook is asked for, it is a list of documents to which
documents are only added, until the numbers run out. -/
theorem session_isListOf_documents {requests : List Request}
    (few : (draftsOf requests).length < UInt64.size - 1) :
    (session requests).IsListOf (draftsOf requests) := by
  have accounted := accounted_session few
  have missing (id : UInt64) : (session requests).workbook.get? id = none ↔
      ¬(1 ≤ id.toNat ∧ id.toNat ≤ (draftsOf requests).length) := by
    rw [accounted.holds.found, ← Option.not_isSome_iff_eq_none, isSome_documentAt?_iff,
      length_documentsOf, map_fst_exchanges]
  refine ⟨?_, ?_, fun now id patch error => ?_, fun now id patch outside => ?_⟩
  · rw [accounted.created, map_fst_exchanges]
  · have shows := accounted.holds.shows
    rwa [documentsOf, map_fst_exchanges] at shows
  · rw [update_eq_error_iff, missing]
  · exact answer_update_of_missing ((missing id).mpr outside) now patch

/-- A patch that comes before its document is lost, also to the document that is
made later. -/
theorem session_isListOf_documents_after_refusal :
    let now := Instant.ofUnixTime 0 0
    let requests : List Request := [.create { name := some "Budget" },
      .update now 2 { name := some "Early" }, .create { name := some "Notes" },
      .update now 1 { name := some "Plan" }]
    (draftsOf requests).length < UInt64.size - 1 ∧ (session requests).IsListOf (draftsOf requests) ∧
      (session requests).workbook.list = [(1, "Plan"), (2, "Notes")] := by
  intro now requests
  have few : (draftsOf requests).length < UInt64.size - 1 := by decide
  have isList := session_isListOf_documents few
  have patches : patchesIn (session requests).exchanges 1 = [(now, { name := some "Plan" })] ∧
      patchesIn (session requests).exchanges 2 = [] := by
    simp [requests, patchesIn, session, Session.ask, answer, create, update, empty]
  refine ⟨few, isList, ?_⟩
  rw [isList.shows.list]
  simp [requests, draftsOf, patches, Document.revised, Document.lastNamed, Document.displayName]

end Workbook
end Worksheet

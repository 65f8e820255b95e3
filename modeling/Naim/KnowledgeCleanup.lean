import Naim.KnowledgeStore

/-!
# Cleaning up after deletions

A deletion leaves a tombstone, which `Cleanup` takes for a record that is to go. What
a history of calls has written since its last deletion is compared with the tables, and
the records that a cleanup takes with it are those that were written over a tombstone.
-/

namespace Naim.KnowledgeStore

open List Assoc Runs

def cleanup (s : Store) : Store :=
  let dead := (s.blocks.filter (·.2.deleted)).map (·.2.blockId)
  {s with
    blocks := s.blocks.filter (!·.2.deleted)
    terms := s.terms.filter fun e => !dead.any fun blockId => keyEndsWith e.1 (":" ++ blockId)
    acl := s.acl.filter fun e => !dead.any fun blockId => keyEndsWith e.1 (":" ++ blockId)
    heads := s.heads.filter (·.2.headBlockId ∉ dead)
    sources := s.sources.filter (·.1 ∉ s.sourceTombstones.map fun t => "sources:" ++ t.2.sourceKey)
    sourceHash := s.sourceHash.filter fun e => !s.sourceTombstones.any fun t => namesSource e.1 t.2.sourceKey
    edgesOut := s.edgesOut.filter (·.1 ∉ s.relationTombstones.map fun t => edgeOutKey t.2)
    edgesIn := s.edgesIn.filter (·.1 ∉ s.relationTombstones.map fun t => edgeInKey t.2)}

def writtenBy : Operation → Option Relation
  | .writeRelation newId r =>
    if (r.named newId).fromBlockId = "" ∨ (r.named newId).toBlockId = "" then none else some (r.named newId)
  | _ => none

def drops (s : Store) : Operation → Relation → Bool
  | .deleteRelation relationId => fun r => relationId ≠ "" && r.relationId = relationId
  | .deleteBlock blockId => fun r => (s.blocks.lookup ("blocks:" ++ blockId)).isSome && r.touches blockId
  | .deleteSource sourceRef => fun r => (findSource sourceRef s).any fun source => source.blockId ≠ "" &&
      ((s.blocks.lookup ("blocks:" ++ source.blockId)).isSome && r.touches source.blockId)
  | _ => fun _ => false

def Deletes (r : Relation) (s : Store) (op : Operation) : Prop := r ∈ s.edgesOut.map Prod.snd ∧ drops s op r = true

def ingestedBy (sha : String → String) (s : Store) : Operation → Option Source
  | .ingestSource newId request => (acceptedSource sha newId request s).map Prod.snd
  | _ => none

def deletedSource (s : Store) : Operation → Option Source
  | .deleteSource sourceRef => findSource sourceRef s
  | _ => none

section History

variable (sha : String → String) (history : List Operation)

/-- The relation was written, and no call has deleted it since. -/
def WrittenSince (r : Relation) : Prop :=
  Since (apply sha) (fun _ op => writtenBy op = some r) (Deletes r) {} history

/-- The source was ingested, and no call has deleted it since. -/
def IngestedSince (source : Source) : Prop :=
  Since (apply sha) (fun s op => ingestedBy sha s op = some source) (fun s op => deletedSource s op = some source)
    {} history

/-- A cleanup after the history leaves every block that is not marked deleted and everything that was
written since its last deletion in place. -/
structure KeepsLive : Prop where
  blocks : ∀ e ∈ (run (apply sha) {} history).blocks, e.2.deleted = false →
    e ∈ (cleanup (run (apply sha) {} history)).blocks
  edgesOut : ∀ r, WrittenSince sha history r → (cleanup (run (apply sha) {} history)).edgesOut.lookup (edgeOutKey r) =
    (run (apply sha) {} history).edgesOut.lookup (edgeOutKey r)
  edgesIn : ∀ r, WrittenSince sha history r → (cleanup (run (apply sha) {} history)).edgesIn.lookup (edgeInKey r) =
    (run (apply sha) {} history).edgesIn.lookup (edgeInKey r)
  sources : ∀ source, IngestedSince sha history source →
    (cleanup (run (apply sha) {} history)).sources.lookup ("sources:" ++ source.sourceKey) =
      (run (apply sha) {} history).sources.lookup ("sources:" ++ source.sourceKey)

end History

/-- The call writes no relation and no source under a key that has a tombstone. -/
structure Unrevived (sha : String → String) (s : Store) (op : Operation) : Prop where
  relations : ∀ r ∈ writtenBy op, ∀ t ∈ s.relationTombstones,
    edgeOutKey r ≠ edgeOutKey t.2 ∧ edgeInKey r ≠ edgeInKey t.2
  sources : ∀ source ∈ ingestedBy sha s op, ∀ t ∈ s.sourceTombstones, source.sourceKey ≠ t.2.sourceKey

variable {sha : String → String} {s : Store} {op : Operation} {history : List Operation} {ρ : Type}

lemma dropRelations_false (s : Store) : dropRelations (fun _ => false) s = s := by simp [dropRelations]

structure SameRelations (s s' : Store) : Prop where
  edgesOut : s.edgesOut = s'.edgesOut
  edgesIn : s.edgesIn = s'.edgesIn
  tombstones : s.relationTombstones = s'.relationTombstones

lemma sameRelations_deleteBlock (blockId : String) (s : Store) : SameRelations (deleteBlock blockId s)
    (dropRelations (fun r => (s.blocks.lookup ("blocks:" ++ blockId)).isSome && r.touches blockId) s) := by
  unfold deleteBlock
  cases s.blocks.lookup ("blocks:" ++ blockId) with
  | none =>
    simp only [Option.isSome_none,Bool.false_and,dropRelations_false]
    exact ⟨rfl,rfl,rfl⟩
  | some block =>
    simp only [Option.isSome_some,Bool.true_and]
    exact ⟨rfl,rfl,rfl⟩

lemma relations_apply (sha : String → String) (s : Store) (op : Operation) :
    (∃ r, writtenBy op = some r ∧ apply sha s op =
      {s with edgesOut := Assoc.set s.edgesOut (edgeOutKey r) r, edgesIn := Assoc.set s.edgesIn (edgeInKey r) r}) ∨
    writtenBy op = none ∧ SameRelations (apply sha s op) (dropRelations (drops s op) s) := by
  cases op with
  | writeRelation newId r =>
    simp only [writtenBy,apply,writeRelation,drops,dropRelations_false]
    split
    · exact .inr ⟨rfl,rfl,rfl,rfl⟩
    · exact .inl ⟨_,rfl,rfl⟩
  | writeBlock newId block =>
    simp only [drops,dropRelations_false]
    exact .inr ⟨rfl,rfl,rfl,rfl⟩
  | deleteBlock blockId => exact .inr ⟨rfl,sameRelations_deleteBlock blockId s⟩
  | deleteRelation relationId =>
    refine .inr ⟨rfl,?_⟩
    by_cases h : relationId = ""
    · simp only [apply,deleteRelation,drops,h,ne_eq,not_true_eq_false,decide_false,Bool.false_and,dropRelations_false]
      exact ⟨rfl,rfl,rfl⟩
    · simp only [apply,deleteRelation,drops,h,ne_eq,not_false_eq_true,decide_true,Bool.true_and]
      exact ⟨rfl,rfl,rfl⟩
  | ingestSource newId request =>
    simp only [apply,ingestSource,drops,dropRelations_false]
    split <;> exact .inr ⟨rfl,rfl,rfl,rfl⟩
  | deleteSource sourceRef =>
    refine .inr ⟨rfl,?_⟩
    simp only [apply,deleteSource,drops]
    cases findSource sourceRef s with
    | none =>
      simp only [Option.any_none,dropRelations_false]
      exact ⟨rfl,rfl,rfl⟩
    | some source =>
      by_cases h : source.blockId = ""
      · simp only [Option.any_some,h,ne_eq,not_true_eq_false,decide_false,Bool.false_and,dropRelations_false]
        exact ⟨rfl,rfl,rfl⟩
      · have hblock := sameRelations_deleteBlock source.blockId s
        simp only [Option.any_some,h,ne_eq,not_false_eq_true,decide_true,Bool.true_and]
        exact ⟨hblock.edgesOut,hblock.edgesIn,hblock.tombstones⟩

lemma sources_apply (sha : String → String) (s : Store) (op : Operation) :
    (∃ source, ingestedBy sha s op = some source ∧
      (apply sha s op).sources = Assoc.set s.sources ("sources:" ++ source.sourceKey) source ∧
      (apply sha s op).sourceTombstones = s.sourceTombstones) ∨
    ingestedBy sha s op = none ∧ ((∃ source, deletedSource s op = some source ∧
      (apply sha s op).sources = erase s.sources ("sources:" ++ source.sourceKey) ∧
      (apply sha s op).sourceTombstones =
        Assoc.set s.sourceTombstones ("tombstones:sources:" ++ source.sourceKey) source) ∨
    deletedSource s op = none ∧ (apply sha s op).sources = s.sources ∧
      (apply sha s op).sourceTombstones = s.sourceTombstones) := by
  cases op with
  | ingestSource newId request =>
    simp only [apply,ingestSource,ingestedBy]
    cases acceptedSource sha newId request s with
    | none => exact .inr ⟨rfl,.inr ⟨rfl,rfl,rfl⟩⟩
    | some accepted => exact .inl ⟨accepted.2,rfl,rfl,rfl⟩
  | deleteSource sourceRef =>
    simp only [apply,deleteSource,deletedSource]
    cases findSource sourceRef s with
    | none => exact .inr ⟨rfl,.inr ⟨rfl,rfl,rfl⟩⟩
    | some source => exact .inr ⟨rfl,.inl ⟨source,rfl,rfl,rfl⟩⟩
  | writeRelation newId r =>
    refine .inr ⟨rfl,.inr ⟨rfl,?_⟩⟩
    simp only [apply,writeRelation]
    split <;> exact ⟨rfl,rfl⟩
  | deleteRelation relationId =>
    refine .inr ⟨rfl,.inr ⟨rfl,?_⟩⟩
    simp only [apply,deleteRelation]
    split <;> exact ⟨rfl,rfl⟩
  | deleteBlock blockId =>
    refine .inr ⟨rfl,.inr ⟨rfl,?_⟩⟩
    simp only [apply,deleteBlock]
    split <;> exact ⟨rfl,rfl⟩
  | writeBlock newId block => exact .inr ⟨rfl,.inr ⟨rfl,rfl,rfl⟩⟩

structure Keyed (s : Store) : Prop where
  sorted : Sorted s.edgesOut
  edgesOut : ∀ e ∈ s.edgesOut, e.1 = edgeOutKey e.2
  edgesIn : ∀ e ∈ s.edgesIn, e.1 = edgeInKey e.2
  sources : ∀ e ∈ s.sources, e.1 = "sources:" ++ e.2.sourceKey

lemma drops_of_writtenBy {r : Relation} (h : writtenBy op = some r) (s : Store) : drops s op = fun _ => false := by
  cases op <;> first | rfl | simp [writtenBy] at h

lemma deletedSource_of_ingestedBy {source : Source} (h : ingestedBy sha s op = some source) :
    deletedSource s op = none := by
  cases op <;> first | rfl | simp [ingestedBy] at h

lemma mem_edgesOut_apply {e : String × Relation} (he : e ∈ (apply sha s op).edgesOut) :
    writtenBy op = some e.2 ∧ e.1 = edgeOutKey e.2 ∨ e ∈ s.edgesOut ∧ ¬ Deletes e.2 s op := by
  rcases relations_apply sha s op with ⟨r,hop,happly⟩ | ⟨-,hsame⟩
  · rw [happly] at he
    rcases key_mem_set he with rfl | he
    · exact .inl ⟨hop,rfl⟩
    · exact .inr ⟨he,fun hdeletes => by simp [Deletes,drops_of_writtenBy hop] at hdeletes⟩
  · rw [hsame.edgesOut] at he
    obtain ⟨he,hp⟩ := mem_filter.1 he
    exact .inr ⟨he,fun hdeletes => by simp [hdeletes.2] at hp⟩

lemma mem_edgesIn_apply (hkey : Keyed s) {e : String × Relation} (he : e ∈ (apply sha s op).edgesIn) :
    writtenBy op = some e.2 ∧ e.1 = edgeInKey e.2 ∨ e ∈ s.edgesIn ∧ ¬ Deletes e.2 s op := by
  rcases relations_apply sha s op with ⟨r,hop,happly⟩ | ⟨-,hsame⟩
  · rw [happly] at he
    rcases key_mem_set he with rfl | he
    · exact .inl ⟨hop,rfl⟩
    · exact .inr ⟨he,fun hdeletes => by simp [Deletes,drops_of_writtenBy hop] at hdeletes⟩
  · rw [hsame.edgesIn] at he
    obtain ⟨he,hp⟩ := mem_filter.1 he
    -- a deletion finds the relation among the outgoing edges and takes its incoming key with it
    refine .inr ⟨he,fun hdeletes => of_decide_eq_true hp ?_⟩
    rw [hkey.edgesIn e he]
    exact mem_map_of_mem (mem_filter.2 hdeletes)

lemma mem_sources_apply (hkey : Keyed s) {e : String × Source} (he : e ∈ (apply sha s op).sources) :
    ingestedBy sha s op = some e.2 ∧ e.1 = "sources:" ++ e.2.sourceKey ∨
      e ∈ s.sources ∧ deletedSource s op ≠ some e.2 := by
  rcases sources_apply sha s op with ⟨source,hop,hsources,-⟩ | ⟨-,⟨source,hop,hsources,-⟩ | ⟨hop,hsources,-⟩⟩
  · rw [hsources] at he
    rcases key_mem_set he with rfl | he
    · exact .inl ⟨hop,rfl⟩
    · exact .inr ⟨he,by simp [deletedSource_of_ingestedBy hop]⟩
  · rw [hsources] at he
    obtain ⟨he,hne⟩ := mem_filter.1 he
    refine .inr ⟨he,fun hdeleted => of_decide_eq_true hne ?_⟩
    rw [hkey.sources e he,Option.some.inj (hop.symm.trans hdeleted)]
  · rw [hsources] at he
    exact .inr ⟨he,by simp [hop]⟩

lemma keyed_apply (hkey : Keyed s) (op : Operation) : Keyed (apply sha s op) where
  sorted := by
    rcases relations_apply sha s op with ⟨r,-,happly⟩ | ⟨-,hsame⟩
    · rw [happly]
      exact hkey.sorted.set _ _
    · rw [hsame.edgesOut]
      exact hkey.sorted.filter _
  edgesOut e he := (mem_edgesOut_apply he).elim And.right fun h => hkey.edgesOut e h.1
  edgesIn e he := (mem_edgesIn_apply hkey he).elim And.right fun h => hkey.edgesIn e h.1
  sources e he := (mem_sources_apply hkey he).elim And.right fun h => hkey.sources e h.1

lemma keyed_empty : Keyed {} := ⟨.nil,nofun,nofun,nofun⟩

lemma keyed_run (sha : String → String) (history : List Operation) : Keyed (run (apply sha) {} history) :=
  run_invariant (fun s op (h : Keyed s) _ => keyed_apply h op) keyed_empty (guarded_true history)

/-- What the tables hold was written since it was last deleted. -/
structure Traced (sha : String → String) (history : List Operation) : Prop where
  edgesOut : ∀ e ∈ (run (apply sha) {} history).edgesOut, WrittenSince sha history e.2
  edgesIn : ∀ e ∈ (run (apply sha) {} history).edgesIn, WrittenSince sha history e.2
  sources : ∀ e ∈ (run (apply sha) {} history).sources, IngestedSince sha history e.2

lemma traced (sha : String → String) (history : List Operation) : Traced sha history := by
  induction history using List.reverseRecOn with
  | nil => exact ⟨nofun,nofun,nofun⟩
  | append_singleton history op ih =>
    have hkey := keyed_run sha history
    have hrun : run (apply sha) {} (history ++ [op]) = apply sha (run (apply sha) {} history) op := run_append _ _ _
    refine ⟨fun e he => since_concat.2 ?_,fun e he => since_concat.2 ?_,fun e he => since_concat.2 ?_⟩
    · rw [hrun] at he
      exact (mem_edgesOut_apply he).imp And.left fun h => ⟨ih.edgesOut e h.1,h.2⟩
    · rw [hrun] at he
      exact (mem_edgesIn_apply hkey he).imp And.left fun h => ⟨ih.edgesIn e h.1,h.2⟩
    · rw [hrun] at he
      exact (mem_sources_apply hkey he).imp And.left fun h => ⟨ih.sources e h.1,h.2⟩

/-- No relation and no source that the store holds has a tombstone. -/
structure Untombed (s : Store) : Prop where
  edgesOut : ∀ t ∈ s.relationTombstones, s.edgesOut.lookup (edgeOutKey t.2) = none
  edgesIn : ∀ t ∈ s.relationTombstones, s.edgesIn.lookup (edgeInKey t.2) = none
  sources : ∀ t ∈ s.sourceTombstones, s.sources.lookup ("sources:" ++ t.2.sourceKey) = none

lemma lookup_eq_none {rows : List (String × ρ)} {k : String} :
    rows.lookup k = none ↔ ∀ e ∈ rows, e.1 ≠ k := by
  rw [List.lookup_eq_none_iff]
  exact forall₂_congr fun e _ => bne_iff_ne.trans ne_comm

lemma lookup_filter_keys (rows : List (String × ρ)) (graves : List String) (k : String) :
    (rows.filter (·.1 ∉ graves)).lookup k = if k ∈ graves then none else rows.lookup k := by
  induction rows with
  | nil => simp
  | cons e rows ih =>
    by_cases hk : k = e.1
    · by_cases hgrave : e.1 ∈ graves
      · simpa [hk,hgrave] using ih
      · simp [hk,hgrave,lookup_cons_eq]
    · by_cases hgrave : e.1 ∈ graves
      · simpa [hgrave,lookup_cons_eq,hk] using ih
      · simpa [hgrave,lookup_cons_eq,hk] using ih

lemma live_kept_iff {τ : Type} {rows : List (String × ρ)} {graves : List τ} {graveKey : τ → String}
    {key : ρ → String} {Live : ρ → Prop} (hkey : ∀ e ∈ rows, e.1 = key e.2) (hlive : ∀ e ∈ rows, Live e.2) :
    (∀ r, Live r → (rows.filter (·.1 ∉ graves.map graveKey)).lookup (key r) = rows.lookup (key r)) ↔
      ∀ t ∈ graves, rows.lookup (graveKey t) = none := by
  constructor
  · intro h t ht
    cases hr : rows.lookup (graveKey t) with
    | none => rfl
    | some r =>
      have hmem := mem_of_lookup hr
      have hkept := h r (hlive _ hmem)
      rw [← hkey _ hmem,hr,lookup_filter_keys,if_pos (mem_map_of_mem ht)] at hkept
      cases hkept
  · intro h r _
    rw [lookup_filter_keys]
    split
    next hgrave =>
      obtain ⟨t,ht,hk⟩ := mem_map.1 hgrave
      rw [← hk,h t ht]
    · rfl

/-- A cleanup after the history keeps what was written since its deletion exactly when nothing that is
stored has a tombstone. -/
lemma keepsLive_iff_untombed : KeepsLive sha history ↔ Untombed (run (apply sha) {} history) := by
  have hkey := keyed_run sha history
  have htraced := traced sha history
  constructor
  · rintro ⟨-,hout,hin,hsources⟩
    exact ⟨(live_kept_iff hkey.edgesOut htraced.edgesOut).1 hout,(live_kept_iff hkey.edgesIn htraced.edgesIn).1 hin,
      (live_kept_iff hkey.sources htraced.sources).1 hsources⟩
  · rintro ⟨hout,hin,hsources⟩
    refine ⟨fun e he hlive => mem_filter.2 ⟨he,by rw [hlive]; rfl⟩,?_,?_,?_⟩
    · exact (live_kept_iff hkey.edgesOut htraced.edgesOut).2 hout
    · exact (live_kept_iff hkey.edgesIn htraced.edgesIn).2 hin
    · exact (live_kept_iff hkey.sources htraced.sources).2 hsources

lemma mem_tombstones_dropRelations {p : Relation → Bool} {t : String × Relation}
    (ht : t ∈ (dropRelations p s).relationTombstones) :
    t ∈ s.relationTombstones ∨ t.2 ∈ s.edgesOut.map Prod.snd ∧ p t.2 = true := by
  have hfold : ∀ (dropped : List Relation) (m : List (String × Relation)),
      t ∈ dropped.foldl (fun m r => Assoc.set m ("tombstones:relations:" ++ r.relationId) r) m →
        t ∈ m ∨ t.2 ∈ dropped := by
    intro dropped
    induction dropped with
    | nil => exact fun _ h => .inl h
    | cons r dropped ih =>
      intro m h
      rcases ih _ h with h | h
      · rcases key_mem_set h with rfl | h
        · exact .inr (by simp)
        · exact .inl h
      · exact .inr (by simp [h])
  exact (hfold _ _ ht).imp_right mem_filter.1

lemma untombed_dropRelations (hkey : Keyed s) (h : Untombed s) (p : Relation → Bool) :
    (∀ t ∈ (dropRelations p s).relationTombstones,
      (dropRelations p s).edgesOut.lookup (edgeOutKey t.2) = none) ∧
    ∀ t ∈ (dropRelations p s).relationTombstones, (dropRelations p s).edgesIn.lookup (edgeInKey t.2) = none := by
  constructor
  · intro t ht
    refine lookup_eq_none.2 fun e he hk => ?_
    obtain ⟨he,hp⟩ := mem_filter.1 he
    rcases mem_tombstones_dropRelations ht with ht | ⟨hmem,hdropped⟩
    · exact lookup_eq_none.1 (h.edgesOut t ht) e he hk
    · -- the dropped relation stood under the same key
      obtain ⟨d,hd,hdt⟩ := mem_map.1 hmem
      have hsame := (hkey.sorted.lookup_of_mem he).symm
      rw [hk,← hdt,← hkey.edgesOut d hd,hkey.sorted.lookup_of_mem hd] at hsame
      rw [Option.some.inj hsame,hdt,hdropped] at hp
      cases hp
  · intro t ht
    refine lookup_eq_none.2 fun e he hk => ?_
    obtain ⟨he,hp⟩ := mem_filter.1 he
    rcases mem_tombstones_dropRelations ht with ht | hdropped
    · exact lookup_eq_none.1 (h.edgesIn t ht) e he hk
    · exact of_decide_eq_true hp (hk ▸ mem_map_of_mem (mem_filter.2 hdropped))

/-- A call keeps records and tombstones apart exactly when it writes over no tombstone. -/
lemma untombed_apply_iff (hkey : Keyed s) (h : Untombed s) : Untombed (apply sha s op) ↔ Unrevived sha s op := by
  have hrelations : ((∀ t ∈ (apply sha s op).relationTombstones,
        (apply sha s op).edgesOut.lookup (edgeOutKey t.2) = none) ∧
      ∀ t ∈ (apply sha s op).relationTombstones, (apply sha s op).edgesIn.lookup (edgeInKey t.2) = none) ↔
      ∀ r ∈ writtenBy op, ∀ t ∈ s.relationTombstones,
        edgeOutKey r ≠ edgeOutKey t.2 ∧ edgeInKey r ≠ edgeInKey t.2 := by
    rcases relations_apply sha s op with ⟨r,hop,happly⟩ | ⟨hop,hsame⟩
    · simp only [happly,hop,Option.mem_some,forall_eq',lookup_set,forall₂_and]
      refine and_congr (forall₂_congr fun t ht => ?_) (forall₂_congr fun t ht => ?_)
      · simp [h.edgesOut t ht,eq_comm]
      · simp [h.edgesIn t ht,eq_comm]
    · have hapart := untombed_dropRelations hkey h (drops s op)
      simpa [hop,hsame.edgesOut,hsame.edgesIn,hsame.tombstones] using hapart
  have hsources : (∀ t ∈ (apply sha s op).sourceTombstones,
        (apply sha s op).sources.lookup ("sources:" ++ t.2.sourceKey) = none) ↔
      ∀ source ∈ ingestedBy sha s op, ∀ t ∈ s.sourceTombstones, source.sourceKey ≠ t.2.sourceKey := by
    rcases sources_apply sha s op with
      ⟨source,hop,htable,hgraves⟩ | ⟨hop,⟨source,-,htable,hgraves⟩ | ⟨-,htable,hgraves⟩⟩
    · simp only [htable,hgraves,hop,Option.mem_some,forall_eq',lookup_set]
      refine forall₂_congr fun t ht => ?_
      simp [h.sources t ht,eq_comm]
    · simp only [htable,hgraves,hop,lookup_erase]
      simp only [Option.not_mem_none,false_imp_iff,implies_true,iff_true]
      intro t ht
      split
      · rfl
      next hne =>
        rcases key_mem_set ht with rfl | ht
        · exact absurd rfl hne
        · exact h.sources t ht
    · simpa [htable,hgraves,hop] using h.sources
  constructor
  · rintro ⟨hout,hin,hs⟩
    exact ⟨hrelations.1 ⟨hout,hin⟩,hsources.1 hs⟩
  · rintro ⟨hr,hs⟩
    exact ⟨(hrelations.2 hr).1,(hrelations.2 hr).2,hsources.2 hs⟩

/-- Along a history, every cleanup keeps what is live exactly when no call writes over a tombstone. -/
theorem cleanup_keeps_iff (sha : String → String) (history : List Operation) :
    (∀ n, KeepsLive sha (history.take n)) ↔ Guarded (apply sha) (Unrevived sha) {} history := by
  simp only [keepsLive_iff_untombed]
  exact @invariant_iff_guarded _ _ (apply sha) (Unrevived sha) Untombed Keyed (fun _ => True)
    (fun _ op hkey _ => keyed_apply hkey op) (fun _ _ hkey _ h => untombed_apply_iff hkey h) history _
    (fun _ _ => trivial) keyed_empty ⟨nofun,nofun,nofun⟩

/-- A relation that is written again after its deletion is lost in the next cleanup. -/
theorem cleanup_drops_rewritten_relation :
    let r := {relationId := "r",fromBlockId := "a",toBlockId := "b"}
    let history := [.writeRelation "" r,.deleteRelation "r",.writeRelation "" r]
    let s := run (apply id) {} history
    WrittenSince id history r ∧ s.edgesOut = [("edges_out:a:related:b:r",r)] ∧ (cleanup s).edgesOut = [] ∧
      ¬ KeepsLive id history := by
  intro r history s
  have hwritten : WrittenSince id history r :=
    ⟨[.writeRelation "" r,.deleteRelation "r"],.writeRelation "" r,[],rfl,by decide,trivial⟩
  refine ⟨hwritten,by decide +kernel,by decide +kernel,fun h => ?_⟩
  have hkept := h.edgesOut r hwritten
  revert hkept
  decide +kernel

end Naim.KnowledgeStore

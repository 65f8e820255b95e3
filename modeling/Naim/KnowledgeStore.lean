import Mathlib.Data.String.Basic
import Naim.Assoc
import Naim.Runs

/-!
# The knowledge store

`KnowledgeStore` keeps its records under keys that are joined from ids, and an id may
hold the separator. Each family of keys has its own prefix and is a table here. A
deletion finds what belongs to a block by the end of its key and leaves tombstones.
-/

namespace Naim.KnowledgeStore

open List

structure Block where
  (blockId knowledgeId title body : String := "")
  scopeIds : List String := []
  deleted : Bool := false
deriving DecidableEq

structure Relation where
  relationId : String := ""
  (fromBlockId toBlockId : String)
  type : String := "related"
deriving DecidableEq

structure Head where
  (knowledgeId headBlockId : String)
deriving DecidableEq

structure Source where
  (sourceKey sourceRef blockId : String)
deriving DecidableEq

/-- An entry stands under its whole key. -/
structure Store where
  (blocks terms acl : List (String × Block) := [])
  (edgesOut edgesIn : List (String × Relation) := [])
  heads : List (String × Head) := []
  (sources sourceHash : List (String × Source) := [])
  relationTombstones : List (String × Relation) := []
  sourceTombstones : List (String × Source) := []

def keyEndsWith (key suffix : String) : Bool := suffix.toList.isSuffixOf key.toList

def addTerms (text : String) : List String :=
  ((text.toList.splitOnP (!·.isAlphanum)).filter (· ≠ [])).map fun term => String.ofList (term.map Char.toLower)

def writeBlock (newId : String) (block : Block) (s : Store) : Store :=
  let blockId := if block.blockId = "" then newId else block.blockId
  let knowledgeId := if block.knowledgeId = "" then "knowledge." ++ blockId else block.knowledgeId
  let block := {block with blockId,knowledgeId,deleted := false}
  {s with
    blocks := Assoc.set s.blocks ("blocks:" ++ blockId) block
    terms := (addTerms block.title ++ addTerms block.body).foldl
      (fun m term => Assoc.set m ("terms:" ++ term ++ ":" ++ blockId) block) s.terms
    acl := block.scopeIds.foldl (fun m scopeId => Assoc.set m ("acl:" ++ scopeId ++ ":" ++ blockId) block) s.acl}

def edgeOutKey (r : Relation) : String :=
  ":".intercalate ["edges_out",r.fromBlockId,r.type,r.toBlockId,r.relationId]

def edgeInKey (r : Relation) : String :=
  ":".intercalate ["edges_in",r.toBlockId,r.type,r.fromBlockId,r.relationId]

def Relation.named (r : Relation) (newId : String) : Relation :=
  {r with relationId := if r.relationId = "" then newId else r.relationId}

def writeRelation (newId : String) (r : Relation) (s : Store) : Store :=
  let r := r.named newId
  if r.fromBlockId = "" ∨ r.toBlockId = "" then s
  else {s with edgesOut := Assoc.set s.edgesOut (edgeOutKey r) r,edgesIn := Assoc.set s.edgesIn (edgeInKey r) r}

/-- What both deletions do with the relations that they find among the outgoing edges. -/
def dropRelations (p : Relation → Bool) (s : Store) : Store :=
  let dropped := (s.edgesOut.map Prod.snd).filter p
  {s with
    edgesOut := s.edgesOut.filter fun e => !p e.2
    edgesIn := s.edgesIn.filter (·.1 ∉ dropped.map edgeInKey)
    relationTombstones := dropped.foldl (fun m r => Assoc.set m ("tombstones:relations:" ++ r.relationId) r)
      s.relationTombstones}

def deleteRelation (relationId : String) (s : Store) : Store :=
  if relationId = "" then s else dropRelations (·.relationId = relationId) s

def Relation.touches (r : Relation) (blockId : String) : Bool := r.fromBlockId = blockId || r.toBlockId = blockId

def deleteBlock (blockId : String) (s : Store) : Store :=
  match s.blocks.lookup ("blocks:" ++ blockId) with
  | none => s
  | some block =>
    {dropRelations (·.touches blockId) s with
      blocks := Assoc.set s.blocks ("blocks:" ++ blockId) {block with deleted := true}
      terms := s.terms.filter fun e => !keyEndsWith e.1 (":" ++ blockId)
      acl := s.acl.filter fun e => !keyEndsWith e.1 (":" ++ blockId)
      heads := s.heads.filter fun e => e.2.headBlockId ≠ blockId ∧ e.2.knowledgeId ≠ block.knowledgeId}

structure Spares (blockId : String) (s s' : Store) : Prop where
  blocks : ∀ id, id ≠ blockId → s'.blocks.lookup ("blocks:" ++ id) = s.blocks.lookup ("blocks:" ++ id)
  terms : ∀ e ∈ s.terms, e.2.blockId ≠ blockId → e ∈ s'.terms
  acl : ∀ e ∈ s.acl, e.2.blockId ≠ blockId → e ∈ s'.acl
  edgesOut : ∀ e ∈ s.edgesOut, e.2.touches blockId = false → e ∈ s'.edgesOut
  edgesIn : ∀ e ∈ s.edgesIn, e.2.touches blockId = false → e ∈ s'.edgesIn
  heads : ∀ e ∈ s.heads, e.2.headBlockId ≠ blockId → e ∈ s'.heads

/-- No key of another block ends like those of the block, no other relation has the key of one of its incoming
edges, and no other block is the head of its knowledge. -/
structure Separate (blockId : String) (block : Block) (s : Store) : Prop where
  terms : ∀ e ∈ s.terms, e.2.blockId ≠ blockId → keyEndsWith e.1 (":" ++ blockId) = false
  acl : ∀ e ∈ s.acl, e.2.blockId ≠ blockId → keyEndsWith e.1 (":" ++ blockId) = false
  edgesIn : ∀ e ∈ s.edgesIn, e.2.touches blockId = false → ∀ d ∈ s.edgesOut, d.2.touches blockId = true →
    edgeInKey d.2 ≠ e.1
  heads : ∀ e ∈ s.heads, e.2.headBlockId ≠ blockId → e.2.knowledgeId ≠ block.knowledgeId

/-- A deletion leaves everything else alone exactly when the block is missing or separate from the others. -/
theorem deleteBlock_spares_iff (blockId : String) (s : Store) : Spares blockId s (deleteBlock blockId s) ↔
    ∀ block, s.blocks.lookup ("blocks:" ++ blockId) = some block → Separate blockId block s := by
  unfold deleteBlock
  cases hblock : s.blocks.lookup ("blocks:" ++ blockId) with
  | none => exact ⟨nofun,fun _ => ⟨fun _ _ => rfl,fun _ h _ => h,fun _ h _ => h,fun _ h _ => h,fun _ h _ => h,
      fun _ h _ => h⟩⟩
  | some block =>
    simp only [Option.some.injEq,forall_eq']
    constructor
    · intro h
      refine ⟨fun e he hne => ?_,fun e he hne => ?_,fun e he hne d hd htouch heq => ?_,fun e he hne heq => ?_⟩
      · simpa using (mem_filter.1 (h.terms e he hne)).2
      · simpa using (mem_filter.1 (h.acl e he hne)).2
      · have hkept := (mem_filter.1 (h.edgesIn e he hne)).2
        refine of_decide_eq_true hkept (mem_map.2 ⟨d.2,mem_filter.2 ⟨mem_map_of_mem hd,htouch⟩,heq⟩)
      · have hkept := (mem_filter.1 (h.heads e he hne)).2
        exact (of_decide_eq_true hkept).2 heq
    · intro h
      refine ⟨fun id hne => ?_,fun e he hne => ?_,fun e he hne => ?_,fun e he hne => ?_,fun e he hne => ?_,
        fun e he hne => ?_⟩
      · exact (Assoc.lookup_set _ _ _ _).trans (if_neg fun heq => hne ((String.append_right_inj _).1 heq))
      · exact mem_filter.2 ⟨he,by rw [h.terms e he hne]; rfl⟩
      · exact mem_filter.2 ⟨he,by rw [h.acl e he hne]; rfl⟩
      · exact mem_filter.2 ⟨he,by simpa using hne⟩
      · refine mem_filter.2 ⟨he,decide_eq_true fun hmem => ?_⟩
        obtain ⟨r,hr,hkey⟩ := mem_map.1 hmem
        obtain ⟨hout,htouch⟩ := mem_filter.1 hr
        obtain ⟨d,hd,rfl⟩ := mem_map.1 hout
        exact h.edgesIn e he hne d hd htouch hkey
      · exact mem_filter.2 ⟨he,decide_eq_true ⟨hne,h.heads e he hne⟩⟩

/-- The block `b` takes the terms of the block `a:b` with it. -/
theorem deleteBlock_strips_longer_id :
    let s := writeBlock "" {blockId := "a:b",title := "x"} (writeBlock "" {blockId := "b"} {})
    ¬ Spares "b" s (deleteBlock "b" s) := by
  intro s h
  have hmem := h.terms ("terms:x:a:b",{blockId := "a:b",knowledgeId := "knowledge.a:b",title := "x"})
    (by decide +kernel) (by decide)
  revert hmem
  decide +kernel

structure SourceIngestRequest where
  sourceKind : String
  (sourceRef content contentHash : String := "")
  scopeIds : List String := []
  title : Option String := none

def kAllowedKinds : List String := ["document","api","operator","agent","runtime","web"]

/-- The content hash and the source record of a request that is neither refused nor a duplicate;
`sha` stands for `ComputeSha256Hex`. -/
def acceptedSource (sha : String → String) (newId : String) (request : SourceIngestRequest) (s : Store) :
    Option (String × Source) :=
  if request.sourceKind ∉ kAllowedKinds ∨ request.content = "" ∧ request.contentHash = "" then none else
  let contentHash := if request.contentHash = "" then sha request.content else request.contentHash
  let sourceKey := sha (request.sourceKind ++ "\n" ++ request.sourceRef ++ "\n" ++ contentHash)
  if (s.sources.lookup ("sources:" ++ sourceKey)).isSome ∨
    s.sourceHash.any fun e => ("source_hash:" ++ contentHash ++ ":").toList.isPrefixOf e.1.toList then none else
  some (contentHash,{sourceKey,sourceRef := request.sourceRef,blockId := newId})

def ingestSource (sha : String → String) (newId : String) (request : SourceIngestRequest) (s : Store) : Store :=
  match acceptedSource sha newId request s with
  | none => s
  | some (contentHash,source) =>
    let title := request.title.getD (if request.sourceRef = "" then request.sourceKind else request.sourceRef)
    let knowledgeId := "source." ++ String.ofList (source.sourceKey.toList.take 16)
    let block := {blockId := newId,knowledgeId,title,body := request.content,scopeIds := request.scopeIds}
    {writeBlock newId block s with
      sources := Assoc.set s.sources ("sources:" ++ source.sourceKey) source
      sourceHash := Assoc.set s.sourceHash ("source_hash:" ++ contentHash ++ ":" ++ source.sourceKey) source}

/-- `find(":" + source_key)` on a key of the hash index. -/
def namesSource (key sourceKey : String) : Bool := (":" ++ sourceKey).toList <:+: key.toList

/-- The source that a deletion finds; without a reference it is refused. -/
def findSource (sourceRef : String) (s : Store) : Option Source :=
  if sourceRef = "" then none else
  (s.sources.find? fun e => e.1 = "sources:" ++ sourceRef || e.2.sourceKey = sourceRef ||
    e.2.blockId = sourceRef || e.2.sourceRef = sourceRef).map Prod.snd

def deleteSource (sourceRef : String) (s : Store) : Store :=
  match findSource sourceRef s with
  | none => s
  | some source =>
    {if source.blockId = "" then s else deleteBlock source.blockId s with
      sources := Assoc.erase s.sources ("sources:" ++ source.sourceKey)
      sourceHash := s.sourceHash.filter fun e => !namesSource e.1 source.sourceKey
      sourceTombstones := Assoc.set s.sourceTombstones ("tombstones:sources:" ++ source.sourceKey) source}

inductive Operation where
  | writeBlock (newId : String) (block : Block)
  | writeRelation (newId : String) (relation : Relation)
  | deleteBlock (blockId : String)
  | deleteRelation (relationId : String)
  | ingestSource (newId : String) (request : SourceIngestRequest)
  | deleteSource (sourceRef : String)

def apply (sha : String → String) (s : Store) : Operation → Store
  | .writeBlock newId block => writeBlock newId block s
  | .writeRelation newId relation => writeRelation newId relation s
  | .deleteBlock blockId => deleteBlock blockId s
  | .deleteRelation relationId => deleteRelation relationId s
  | .ingestSource newId request => ingestSource sha newId request s
  | .deleteSource sourceRef => deleteSource sourceRef s

end Naim.KnowledgeStore

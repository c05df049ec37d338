import DocumentStore.Proofs.Service.Refinement

/-!
This file shows that the pages of a search are slices of one ranking, which neither misses nor
repeats an item.
-/

namespace DocumentStore

open DocumentStore.Action

/-- Pages of one size that follow each other make up the beginning of a list. -/
theorem flatMap_pages {α : Type} (list : List α) (size count : Nat) :
    ((List.range count).flatMap fun page => (list.drop (page * size)).take size) =
      list.take (count * size) := by
  induction count with
  | zero => simp
  | succ count inductionHypothesis =>
      rw [List.range_succ, List.flatMap_append, inductionHypothesis, List.flatMap_singleton,
        Nat.succ_mul, List.take_add]

namespace Store

/-- A ranking lists the items that match. None is greater than a later one, and items that compare
equal keep their order of insertion. -/
structure Ranking (store : Store) (collection : String) (predicate : Predicate) (order : Order)
    (ranked : List Item) : Prop where
  matching : ranked.Perm ((store.items collection).filter predicate.accepts)
  ordered : ranked.Pairwise fun earlier later => order.compareItems earlier later ≠ .gt
  stable : ∀ earlier later, order.compareItems earlier later = .eq →
    [earlier, later].Sublist ranked → [earlier, later].Sublist (store.items collection)
  unsorted : order.isEmpty = true → ranked = (store.items collection).filter predicate.accepts

/-- What the catalog finds are the accepted items in the order of the store. -/
theorem found_eq (store : Store) (collection : String) (predicate : Predicate) :
    store.catalog.found collection predicate =
      (store.items collection).filter predicate.accepts := by
  rw [Catalog.found, shelf_catalog, items_shelve]

/-- The sorted items are a ranking of those that match. -/
theorem ranking_sort {store : Store} (sound : store.catalog.Sound) (collection : String)
    (predicate : Predicate) (order : Order) :
    store.Ranking collection predicate order
      (order.sort (store.catalog.found collection predicate)) where
  matching := by
    rw [found_eq]
    exact order.sort_perm _
  ordered := by
    apply order.sort_pairwise
    intro item member
    rw [found_eq] at member
    have settled := settled_of_sound sound collection item (List.mem_of_mem_filter member)
    exact settled.storable.places order
  stable earlier later equal inside := by
    have before := order.sort_stable equal inside
    rw [found_eq] at before
    exact before.trans List.filter_sublist
  unsorted empty := by rw [order.sort_of_isEmpty empty, found_eq]

end Store

namespace Service

/-- These are the items of a page, and a request that fails has none. -/
def pageItems (request : FindRequest) (store : Store) (skip limit : Int64) : List WireItem :=
  match (find Store.handle { request with skip := some skip, limit := some limit } store).1 with
  | .ok response => response.items
  | .error _ => []

/-- A request whose parts are accepted has this plan. -/
theorem plan_eq {request : FindRequest} {collection : String} {predicate : Predicate}
    {entries : SortList} (named : requireCollection request.collectionName = .ok collection)
    (compiled : Filter.compileWire request.filter = .ok predicate)
    (sorted : SortList.ofWire request.sort = .ok entries) {skip limit : Int64}
    (skipped : 0 ≤ skip.toInt) (limited : 0 < limit.toInt) :
    FindRequest.plan { request with skip := some skip, limit := some limit } =
      .ok { collection, predicate, order := Order.ofList entries, skip := skip.toInt.toNat,
            limit := limit.toInt.toNat } := by
  have skipOk : FindRequest.skipCount { request with skip := some skip, limit := some limit } =
      .ok skip.toInt.toNat := if_neg (by omega)
  have limitOk : FindRequest.limitCount { request with skip := some skip, limit := some limit } =
      .ok limit.toInt.toNat := if_neg (by omega)
  unfold FindRequest.plan
  rw [named, skipOk, limitOk, compiled, sorted]
  rfl

section

variable {store : Store} {request : FindRequest} {collection : String} {predicate : Predicate}
  {entries : SortList}

/-- This is the ranking that the pages of a search are taken from. -/
def ranked (store : Store) (collection : String) (predicate : Predicate) (entries : SortList) :
    List Item :=
  (Order.ofList entries).sort (store.catalog.found collection predicate)

/-- Ranking keeps the number of the items. -/
theorem length_ranked (store : Store) (collection : String) (predicate : Predicate)
    (entries : SortList) :
    (store.catalog.found collection predicate).length =
      (ranked store collection predicate entries).length :=
  ((Order.ofList entries).sort_perm _).length_eq.symm

/-- A page is a part of the ranking, and the total is its length. -/
theorem find_page (sound : store.catalog.Sound)
    (named : requireCollection request.collectionName = .ok collection)
    (compiled : Filter.compileWire request.filter = .ok predicate)
    (sorted : SortList.ofWire request.sort = .ok entries) {skip limit : Int64}
    (skipped : 0 ≤ skip.toInt) (limited : 0 < limit.toInt) :
    find Store.handle { request with skip := some skip, limit := some limit } store =
      (.ok {
        items := (((ranked store collection predicate entries).drop skip.toInt.toNat).take
          limit.toInt.toNat).map Item.outbound
        totalCount := (ranked store collection predicate entries).length }, store) := by
  rw [find_run sound (plan_eq named compiled sorted skipped limited), ← length_ranked]
  rfl

/-- Pages that follow each other make up the ranking. -/
theorem flatMap_pageItems (sound : store.catalog.Sound)
    (named : requireCollection request.collectionName = .ok collection)
    (compiled : Filter.compileWire request.filter = .ok predicate)
    (sorted : SortList.ofWire request.sort = .ok entries) {limit : Int64}
    (limited : 0 < limit.toInt) {skips : List Int64}
    (regular : skips.map Int64.toInt =
      (List.range skips.length).map fun page : Nat => (page : Int) * limit.toInt) :
    skips.flatMap (pageItems request store · limit) =
      ((ranked store collection predicate entries).take
        (skips.length * limit.toInt.toNat)).map Item.outbound := by
  have size : (limit.toInt.toNat : Int) = limit.toInt := Int.toNat_of_nonneg (by omega)
  have places : skips.map (fun skip => skip.toInt.toNat) =
      (List.range skips.length).map fun page => page * limit.toInt.toNat := by
    have products : ∀ page : Nat, ((page : Int) * limit.toInt).toNat =
        page * limit.toInt.toNat := by
      intro page
      rw [← size, ← Int.natCast_mul, Int.toNat_natCast, Int.toNat_natCast]
    have numbers := congrArg (List.map Int.toNat) regular
    simpa only [List.map_map, Function.comp_def, products] using numbers
  -- Every skipped number is a multiple of the limit, so none is negative and each page is found.
  have pages : ∀ skip ∈ skips, pageItems request store skip limit =
      (((ranked store collection predicate entries).drop skip.toInt.toNat).take
        limit.toInt.toNat).map Item.outbound := by
    intro skip member
    have skipped : 0 ≤ skip.toInt := by
      have inside : skip.toInt ∈ skips.map Int64.toInt := List.mem_map_of_mem member
      rw [regular] at inside
      obtain ⟨page, -, place⟩ := List.mem_map.mp inside
      rw [← place]
      exact Int.mul_nonneg (Int.natCast_nonneg page) (by omega)
    rw [pageItems, find_page sound named compiled sorted skipped limited]
  calc skips.flatMap (pageItems request store · limit)
      = (skips.map fun skip => skip.toInt.toNat).flatMap fun place =>
          (((ranked store collection predicate entries).drop place).take
            limit.toInt.toNat).map Item.outbound := by
        rw [List.flatMap_map]
        exact List.flatMap_congr pages
    _ = ((List.range skips.length).flatMap fun page =>
          ((ranked store collection predicate entries).drop (page * limit.toInt.toNat)).take
            limit.toInt.toNat).map Item.outbound := by
        rw [places, List.flatMap_map, List.map_flatMap]
    _ = ((ranked store collection predicate entries).take
          (skips.length * limit.toInt.toNat)).map Item.outbound := by
        rw [flatMap_pages]

/-- Every page is a slice of one ranking, the total is its length, and all pages together give it
back. -/
theorem find_pages (reachable : store.Reachable)
    (named : requireCollection request.collectionName = .ok collection)
    (compiled : Filter.compileWire request.filter = .ok predicate)
    (sorted : SortList.ofWire request.sort = .ok entries) :
    ∃ ranked, store.Ranking collection predicate (Order.ofList entries) ranked ∧
      (∀ skip limit : Int64, 0 ≤ skip.toInt → 0 < limit.toInt →
        find Store.handle { request with skip := some skip, limit := some limit } store =
          (.ok {
            items := ((ranked.drop skip.toInt.toNat).take limit.toInt.toNat).map Item.outbound
            totalCount := ranked.length }, store)) ∧
      count Store.handle { collectionName := request.collectionName, filter := request.filter }
        store = (.ok ⟨ranked.length⟩, store) ∧
      ∀ (limit : Int64) (skips : List Int64), 0 < limit.toInt →
        skips.map Int64.toInt =
          (List.range skips.length).map (fun page : Nat => (page : Int) * limit.toInt) →
        ranked.length ≤ skips.length * limit.toInt.toNat →
        skips.flatMap (pageItems request store · limit) = ranked.map Item.outbound := by
  have sound := reachable.sound
  refine ⟨ranked store collection predicate entries,
    Store.ranking_sort sound collection predicate (Order.ofList entries), ?_, ?_, ?_⟩
  · intro skip limit skipped limited
    exact find_page sound named compiled sorted skipped limited
  · have checked : CountRequest.scope
        { collectionName := request.collectionName, filter := request.filter } =
          .ok (collection, predicate) := by
      unfold CountRequest.scope
      rw [named, compiled]
      rfl
    rw [count_run sound checked, length_ranked]
  · intro limit skips limited regular enough
    rw [flatMap_pageItems sound named compiled sorted limited regular,
      List.take_of_length_le enough]

end

/-- This adds two items, and the first one has the greater flag. -/
def addTwoFlags : List Operation :=
  [.insert "a" (by decide)
      { collectionName := some "flags", item := some [("flag", .bool true)] },
    .insert "b" (by decide)
      { collectionName := some "flags", item := some [("flag", .bool false)] }]

def findByFlag : FindRequest where
  collectionName := some "flags"
  sort := some (.array [.object [("fieldName", .string "flag")]])

/-- Two pages of one item show the two flags. -/
theorem find_pages_flags :
    ∃ ranked : List Item, ranked.length = 2 ∧
      [0, 1].flatMap (pageItems findByFlag (session Operation.perform addTwoFlags .empty).2 · 1) =
        ranked.map Item.outbound := by
  have reachable : Store.Reachable (session Operation.perform addTwoFlags .empty).2 :=
    ⟨addTwoFlags, rfl⟩
  have named : requireCollection findByFlag.collectionName = .ok "flags" := rfl
  have compiled : Filter.compileWire findByFlag.filter = .ok .always := rfl
  have sorted : SortList.ofWire findByFlag.sort = .ok [⟨⟨"flag", by decide⟩, .ascending⟩] := rfl
  obtain ⟨ranked, ranking, -, -, pages⟩ := find_pages reachable named compiled sorted
  have two : ranked.length = 2 := ranking.matching.length_eq
  exact ⟨ranked, two, pages 1 [0, 1] (by decide) (by decide) (two ▸ by decide)⟩

end Service

end DocumentStore

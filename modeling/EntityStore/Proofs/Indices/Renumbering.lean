-- Breakdowns of documents under other numbers. A part of a document carries the
-- number of the document, which is only used to find the whole document again.
-- So a breakdown makes the same of some of all documents, whether these are
-- numbered among all or on their own.
import EntityStore.Indices.Summary
import EntityStore.Proofs.Fallible

namespace EntityStore.Indices

variable {g : Nat → Nat} {docs : List Part} {κ : Type}

/-! ## Parts -/

/-- The part with another number of the document that it is from. -/
def Part.renumber (g : Nat → Nat) (p : Part) : Part := { p with root := g p.root }

theorem nestedParts_renumber (g : Nat → Nat) (path : String) (docs : List Part) :
    nestedParts path (docs.map (.renumber g)) = (nestedParts path docs).map (.renumber g) := by
  simp only [nestedParts, List.flatMap_map, List.map_flatMap, List.map_map]
  rfl

theorem filter_renumber (g : Nat → Nat) (test : Json → Bool) (docs : List Part) :
    (docs.map (Part.renumber g)).filter (fun p => test p.doc) =
      (docs.filter fun p => test p.doc).map (.renumber g) :=
  List.filter_map

/-- What is read off the documents of parts alone does not change. -/
theorem flatMap_renumber {α : Type} (g : Nat → Nat) (f : Json → List α) (docs : List Part) :
    (docs.map (Part.renumber g)).flatMap (fun p => f p.doc) = docs.flatMap fun p => f p.doc :=
  List.flatMap_map ..

/-! ## Cells -/

namespace Cell

def renumber (g : Nat → Nat) (c : Cell κ) : Cell κ := { c with docs := c.docs.map (.renumber g) }

theorem length_renumber (g : Nat → Nat) (c : Cell κ) :
    (c.renumber g).docs.length = c.docs.length := List.length_map _

theorem add_renumber (g : Nat → Nat) (order : κ → κ → Ordering) (key : κ) (shown : Json) (p : Part)
    (cells : List (Cell κ)) :
    add order key shown (p.renumber g) (cells.map (renumber g)) =
      (add order key shown p cells).map (renumber g) := by
  induction cells with
  | nil => rfl
  | cons c rest ih =>
    have hkey : (c.renumber g).key = c.key := rfl
    rw [List.map_cons, add, add, hkey]
    cases order key c.key with
    | lt => rfl
    | eq =>
      simp only [List.map_cons, renumber, List.map_append, List.map_nil]
    | gt =>
      show c.renumber g :: _ = _
      rw [ih]
      rfl

/-- A document joins the groups of all its keys. -/
def addAll (order : κ → κ → Ordering) (p : Part) (cells : List (Cell κ)) (keys : List (κ × Json)) :
    List (Cell κ) :=
  keys.foldl (fun cells k => add order k.1 k.2 p cells) cells

theorem addAll_renumber (g : Nat → Nat) (order : κ → κ → Ordering) (p : Part)
    (cells : List (Cell κ)) (keys : List (κ × Json)) :
    addAll order (p.renumber g) (cells.map (renumber g)) keys =
      (addAll order p cells keys).map (renumber g) := by
  induction keys generalizing cells with
  | nil => rfl
  | cons k keys ih =>
    rw [addAll, List.foldl_cons, add_renumber]
    exact ih (add order k.1 k.2 p cells)

theorem foldl_addAll_renumber (g : Nat → Nat) (order : κ → κ → Ordering)
    {keys : Part → List (κ × Json)} (hkeys : ∀ p, keys (p.renumber g) = keys p) (docs : List Part)
    (cells : List (Cell κ)) :
    (docs.map (Part.renumber g)).foldl (fun cells p => addAll order p cells (keys p))
        (cells.map (renumber g)) =
      (docs.foldl (fun cells p => addAll order p cells (keys p)) cells).map (renumber g) := by
  induction docs generalizing cells with
  | nil => rfl
  | cons p rest ih =>
    rw [List.map_cons, List.foldl_cons, hkeys, addAll_renumber, ih]
    rfl

/-- Groups are made by keys, whatever the numbers are. -/
theorem group_renumber (g : Nat → Nat) (order : κ → κ → Ordering) {keys : Part → List (κ × Json)}
    (hkeys : ∀ p, keys (p.renumber g) = keys p) (docs : List Part) :
    group order keys (docs.map (.renumber g)) = (group order keys docs).map (renumber g) :=
  foldl_addAll_renumber g order hkeys docs []

theorem count_renumber (g : Nat → Nat) (cells : List (Cell κ)) :
    count (cells.map (renumber g)) = count cells := by
  simp only [count, List.foldl_map, length_renumber]

end Cell

theorem rank_renumber (g : Nat → Nat) (cells : List (Cell Value)) :
    rank (cells.map (.renumber g)) = (rank cells).map (.renumber g) := by
  refine (List.map_mergeSort fun a _ b _ => ?_).symm
  rw [Cell.length_renumber, Cell.length_renumber]

theorem page_renumber (g : Nat → Nat) (limit : Nat) (after : Option (List Value))
    (cells : List (Cell (List Value))) :
    page limit after (cells.map (.renumber g)) = (page limit after cells).map (.renumber g) := by
  rw [page, List.filter_map, page, List.map_take]
  rfl

theorem fillSteps_renumber (g : Nat → Nat) (interval : Float) (cells : List (Cell Int)) :
    fillSteps interval (cells.map (.renumber g)) =
      (fillSteps interval cells).map (.renumber g) := by
  have hfind : ∀ step : Int, (cells.map (Cell.renumber g)).find? (fun c => c.key == step) =
      (cells.find? fun c => c.key == step).map (Cell.renumber g) := fun step => List.find?_map ..
  rw [fillSteps, fillSteps, List.head?_map, List.getLast?_map]
  cases cells.head? with
  | none => rfl
  | some first =>
    cases cells.getLast? with
    | none => rfl
    | some last =>
      simp only [Option.map_some, List.map_map]
      refine List.map_congr_left fun i _ => ?_
      show ((cells.map (Cell.renumber g)).find? fun c => c.key == first.key + (i : Int)).getD _ = _
      rw [hfind, Function.comp_apply]
      cases cells.find? fun c => c.key == first.key + (i : Int) <;> rfl

theorem stepCells_renumber (g : Nat → Nat) (field : String) (interval : Float) (least : Nat)
    (docs : List Part) : stepCells field interval least (docs.map (.renumber g)) =
      (stepCells field interval least docs).map (.renumber g) := by
  rw [stepCells, stepCells, Cell.group_renumber g compare (fun _ => rfl)]
  split
  · exact fillSteps_renumber g interval _
  · rw [List.filter_map]
    refine congrArg _ (List.filter_congr fun c _ => ?_)
    rw [Function.comp_apply, Cell.length_renumber]

/-! ## Whole documents -/

/-- Some documents stand among others at places that a function gives. -/
structure Embeds (g : Nat → Nat) (some all : List Json) : Prop where
  injective : ∀ i j, g i = g j → i = j
  places : ∃ test : Json → Bool,
    all.zipIdx.filter (fun d => test d.1) = some.zipIdx.map (fun d => (d.1, g d.2)) ∧
    ∀ doc i, (doc, g i) ∈ all.zipIdx → test doc = true

theorem any_root_renumber (h : ∀ i j, g i = g j → i = j) (docs : List Part) (i : Nat) :
    (docs.map (Part.renumber g)).any (fun p => p.root == g i) = docs.any fun p => p.root == i := by
  rw [List.any_map]
  refine congrArg (docs.any ·) (funext fun p => ?_)
  exact Bool.eq_iff_iff.mpr (by simpa [Part.renumber] using ⟨h _ _, congrArg g⟩)

theorem wholeParts_renumber {some all : List Json} (h : Embeds g some all) (docs : List Part) :
    wholeParts all (docs.map (.renumber g)) = (wholeParts some docs).map (.renumber g) := by
  obtain ⟨test, hplaces, htest⟩ := h.places
  let occurs (d : Json × Nat) : Bool := (docs.map (Part.renumber g)).any fun p => p.root == d.2
  -- A document that a part is from is one of those that the test keeps.
  have hkept : all.zipIdx.filter occurs =
      (all.zipIdx.filter fun d => test d.1).filter occurs := by
    rw [List.filter_filter]
    refine List.filter_congr fun d hd => ?_
    cases hoccurs : occurs d with
    | false => rfl
    | true =>
      obtain ⟨q, hq, hroot⟩ := List.any_eq_true.mp hoccurs
      obtain ⟨p, -, rfl⟩ := List.mem_map.mp hq
      have hplace : g p.root = d.2 := by simpa [Part.renumber] using hroot
      rw [htest d.1 p.root (hplace ▸ hd)]
      rfl
  have hwhole : wholeParts all (docs.map (.renumber g)) =
      (all.zipIdx.filter occurs).map fun d => ⟨d.2, d.1⟩ := rfl
  have hoccurs : (occurs ∘ fun d : Json × Nat => (d.1, g d.2)) =
      fun d => docs.any fun p => p.root == d.2 :=
    funext fun d => any_root_renumber h.injective docs d.2
  rw [hwhole, hkept, hplaces, List.filter_map, hoccurs, List.map_map, wholeParts, List.map_map]
  rfl

/-! ## Documents that pass a test -/

/-- The place among all documents of one that passes a test, by its place among
those that do. Places are counted from some place on, and go on behind the
last document. -/
def place (test : Json → Bool) : List Json → Nat → Nat → Nat
  | [], n, i => n + i
  | d :: rest, n, 0 => if test d then n else place test rest (n + 1) 0
  | d :: rest, n, i + 1 => place test rest (n + 1) (if test d then i else i + 1)

variable {test : Json → Bool}

theorem le_place (test : Json → Bool) (all : List Json) (n i : Nat) : n ≤ place test all n i := by
  induction all generalizing n i with
  | nil => exact Nat.le_add_right n i
  | cons d rest ih =>
    have hrest := fun i => Nat.le_of_succ_le (ih (n + 1) i)
    cases i with
    | zero =>
      rw [place]
      split
      · exact Nat.le_refl n
      · exact hrest 0
    | succ i => exact hrest _

theorem place_lt_place (test : Json → Bool) (all : List Json) (n : Nat) {i j : Nat} (h : i < j) :
    place test all n i < place test all n j := by
  induction all generalizing n i j with
  | nil => exact Nat.add_lt_add_left h n
  | cons d rest ih =>
    obtain ⟨j, rfl⟩ := Nat.exists_eq_succ_of_ne_zero (Nat.ne_zero_of_lt h)
    cases i with
    | zero =>
      rw [place, place]
      split
      · exact le_place test rest (n + 1) j
      · exact ih (n + 1) h
    | succ i =>
      rw [place, place]
      split
      · exact ih (n + 1) (Nat.lt_of_succ_lt_succ h)
      · exact ih (n + 1) h

theorem place_injective (test : Json → Bool) (all : List Json) (n : Nat) {i j : Nat}
    (h : place test all n i = place test all n j) : i = j := by
  rcases Nat.lt_trichotomy i j with hlt | heq | hgt
  · exact absurd h (Nat.ne_of_lt (place_lt_place test all n hlt))
  · exact heq
  · exact absurd h.symm (Nat.ne_of_lt (place_lt_place test all n hgt))

theorem filter_zipIdx_eq (test : Json → Bool) (all : List Json) (n : Nat) :
    (all.zipIdx n).filter (fun d => test d.1) =
      (all.filter test).zipIdx.map fun d => (d.1, place test all n d.2) := by
  induction all generalizing n with
  | nil => rfl
  | cons d rest ih =>
    rw [List.zipIdx_cons]
    cases hd : test d with
    | false =>
      have hplace : place test (d :: rest) n = place test rest (n + 1) := by
        funext i
        cases i <;> rw [place, hd] <;> rfl
      rw [List.filter_cons_of_neg (by simp [hd]), List.filter_cons_of_neg (by simp [hd]), ih,
        hplace]
    | true =>
      have hfirst : place test (d :: rest) n 0 = n := by rw [place, if_pos hd]
      have hplace : ∀ i, place test (d :: rest) n (i + 1) = place test rest (n + 1) i := fun i => by
        rw [place, if_pos hd]
      rw [List.filter_cons_of_pos (by simpa using hd), List.filter_cons_of_pos hd, ih,
        List.zipIdx_cons, List.map_cons, hfirst, List.zipIdx_succ, List.map_map]
      simp only [Function.comp_def, hplace]

/-- Where there is a document at a place of these, it passes the test. -/
theorem passes_of_place {all : List Json} {n i : Nat} {doc : Json}
    (h : (doc, place test all n i) ∈ all.zipIdx n) : test doc = true := by
  induction all generalizing n i with
  | nil => cases h
  | cons d rest ih =>
    have hbehind : ∀ i, (doc, place test rest (n + 1) i) ∈ (d, n) :: rest.zipIdx (n + 1) →
        test doc = true := by
      intro i hmem
      rcases List.mem_cons.mp hmem with heq | hmem
      · exact absurd (Prod.mk.inj heq).2 (Nat.ne_of_gt (le_place test rest (n + 1) i))
      · exact ih hmem
    rw [List.zipIdx_cons] at h
    cases i with
    | succ i => exact hbehind _ h
    | zero =>
      rw [place] at h
      split at h
      · rename_i hd
        rcases List.mem_cons.mp h with heq | hmem
        · rw [(Prod.mk.inj heq).1]
          exact hd
        · exact absurd (List.mem_zipIdx hmem).1 (Nat.not_succ_le_self n)
      · exact hbehind 0 h

theorem embeds_filter (test : Json → Bool) (all : List Json) :
    Embeds (place test all 0) (all.filter test) all where
  injective := fun _ _ => place_injective test all 0
  places := ⟨test, filter_zipIdx_eq test all 0, fun _ _ => passes_of_place⟩

theorem rootParts_filter (test : Json → Bool) (all : List Json) :
    (rootParts all).filter (fun p => test p.doc) =
      (rootParts (all.filter test)).map (.renumber (place test all 0)) := by
  have hroots : (rootParts all).filter (fun p => test p.doc) =
      (all.zipIdx.filter fun d => test d.1).map fun d => ⟨d.2, d.1⟩ := List.filter_map
  rw [hroots, filter_zipIdx_eq, List.map_map, rootParts, List.map_map]
  rfl

/-! ## Breakdowns -/

namespace Breakdown

theorem measure_renumber (g : Nat → Nat) (m : Metric) (field : String) (docs : List Part) :
    measure m field (docs.map (.renumber g)) = measure m field docs := by
  have hnumbers : (docs.map (Part.renumber g)).flatMap (numbersAt field) =
      docs.flatMap (numbersAt field) :=
    flatMap_renumber g (fun doc => (valuesAt doc field).filterMap numberOf?) docs
  have hvalues := flatMap_renumber g (valuesAt · field) docs
  unfold measure
  rw [hnumbers, hvalues]

theorem cardinality_renumber (g : Nat → Nat) (field : String) (docs : List Part) :
    cardinality field (docs.map (.renumber g)) = cardinality field docs := by
  rw [cardinality, flatMap_renumber g (valuesAt · field), cardinality]

theorem bucketJson_renumber (g : Nat → Nat) (c : Cell κ) (parts : Fields Json) :
    bucketJson (c.renumber g) parts = bucketJson c parts := by
  rw [bucketJson, Cell.length_renumber]
  rfl

theorem pageJson_renumber (g : Nat → Nat) (cells : List (Cell (List Value))) :
    pageJson (cells.map (.renumber g)) = pageJson cells := by
  funext bs
  rw [pageJson, List.getLast?_map, pageJson]
  cases cells.getLast? <;> rfl

theorem singleJson_renumber (g : Nat → Nat) (docs : List Part) (parts : Fields Json) :
    singleJson (docs.map (.renumber g)) parts = singleJson docs parts := by
  rw [singleJson, List.length_map, singleJson]

/-! ## Steps of a breakdown -/

section

variable (roots : List Json) (parts : List (String × Breakdown)) (docs : List Part)

/-- The buckets of some groups, with what breakdowns make of each of them. -/
def buckets (cells : List (Cell κ)) : Except IndexFault (List Json) :=
  cells.mapM fun c => do return bucketJson c (← summaries roots parts c.docs)

/-- One bucket, with what breakdowns make of it. -/
def bucket : Except IndexFault Json := do return singleJson docs (← summaries roots parts docs)

/-- What a breakdown of a kind makes of documents. -/
def outcome : Kind → Except IndexFault Json
  | .terms f limit =>
    (buckets roots parts ((rank (termCells f docs)).take limit)).map (termsJson
      (Cell.count (rank (termCells f docs)) - Cell.count ((rank (termCells f docs)).take limit)))
  | .histogram f interval least =>
    (buckets roots parts (stepCells f interval least docs)).map fun bs =>
      .obj [("buckets", .arr bs)]
  | .metric m f => .ok (measure m f docs)
  | .cardinality f => .ok (valueJson (Json.ofNat (cardinality f docs)))
  | .filter q => bucket roots parts (docs.filter fun p => finds q p.doc)
  | .nested path => bucket roots parts (nestedParts path docs)
  | .whole => bucket roots parts (wholeParts roots docs)
  | .composite sources limit after =>
    (buckets roots parts (page limit after (comboCells sources docs))).map
      (pageJson (page limit after (comboCells sources docs)))

/-- A breakdown does what its kind says. -/
theorem summary_mk (kind : Except IndexFault Kind) :
    summary roots (.mk kind parts) docs = kind >>= outcome roots parts docs := by
  rw [summary]
  cases kind with
  | error f => rfl
  | ok kind =>
    cases kind with
    | terms f limit =>
      show (buckets _ _ _ >>= _) = Except.map _ (buckets _ _ _)
      cases buckets roots parts ((rank (termCells f docs)).take limit) <;> rfl
    | histogram f interval least =>
      show (buckets _ _ _ >>= _) = Except.map _ (buckets _ _ _)
      cases buckets roots parts (stepCells f interval least docs) <;> rfl
    | composite sources limit after =>
      show (buckets _ _ _ >>= _) = Except.map _ (buckets _ _ _)
      cases buckets roots parts (page limit after (comboCells sources docs)) <;> rfl
    | metric _ _ => rfl
    | cardinality _ => rfl
    | filter _ => rfl
    | nested _ => rfl
    | whole => rfl

theorem summary_terms (f : String) (limit : Nat) :
    summary roots (.mk (.ok (.terms f limit)) parts) docs =
      (buckets roots parts ((rank (termCells f docs)).take limit)).map (termsJson
        (Cell.count (rank (termCells f docs)) - Cell.count ((rank (termCells f docs)).take limit))) :=
  summary_mk ..

theorem summary_histogram (f : String) (interval : Float) (least : Nat) :
    summary roots (.mk (.ok (.histogram f interval least)) parts) docs =
      (buckets roots parts (stepCells f interval least docs)).map fun bs =>
        .obj [("buckets", .arr bs)] :=
  summary_mk ..

theorem summary_composite (sources : List (String × String)) (limit : Nat)
    (after : Option (List Value)) :
    summary roots (.mk (.ok (.composite sources limit after)) parts) docs =
      (buckets roots parts (page limit after (comboCells sources docs))).map
        (pageJson (page limit after (comboCells sources docs))) :=
  summary_mk ..

theorem summary_metric (m : Metric) (f : String) :
    summary roots (.mk (.ok (.metric m f)) parts) docs = .ok (measure m f docs) :=
  summary_mk ..

theorem summary_cardinality (f : String) :
    summary roots (.mk (.ok (.cardinality f)) parts) docs =
      .ok (valueJson (Json.ofNat (cardinality f docs))) :=
  summary_mk ..

theorem summary_filter (q : Search.Query) :
    summary roots (.mk (.ok (.filter q)) parts) docs =
      bucket roots parts (docs.filter fun p => finds q p.doc) :=
  summary_mk ..

theorem summary_nested (path : String) :
    summary roots (.mk (.ok (.nested path)) parts) docs =
      bucket roots parts (nestedParts path docs) :=
  summary_mk ..

theorem summary_whole :
    summary roots (.mk (.ok .whole) parts) docs = bucket roots parts (wholeParts roots docs) :=
  summary_mk ..

theorem summary_error (f : IndexFault) :
    summary roots (.mk (.error f) parts) docs = .error f :=
  summary_mk ..

end

/-! ## Breakdowns of renumbered documents -/

section

variable {some all : List Json} {parts : List (String × Breakdown)}

theorem bucket_renumber
    (h : ∀ docs, summaries all parts (docs.map (.renumber g)) = summaries some parts docs)
    (docs : List Part) : bucket all parts (docs.map (.renumber g)) = bucket some parts docs := by
  rw [bucket, h, bucket]
  simp only [singleJson_renumber]

theorem buckets_renumber
    (h : ∀ docs, summaries all parts (docs.map (.renumber g)) = summaries some parts docs)
    (cells : List (Cell κ)) :
    buckets all parts (cells.map (.renumber g)) = buckets some parts cells := by
  rw [buckets, List.mapM_map, buckets]
  refine congrArg (List.mapM · cells) (funext fun c => ?_)
  show (summaries all parts (c.docs.map (.renumber g)) >>= _) = _
  rw [h]
  simp only [bucketJson_renumber]

mutual

/-- A breakdown makes the same of some of all documents, whether these are
numbered among all or on their own. -/
theorem summary_renumber (h : Embeds g some all) :
    ∀ (b : Breakdown) (docs : List Part),
      summary all b (docs.map (.renumber g)) = summary some b docs
  | .mk (.error f) parts, docs => by rw [summary_error, summary_error]
  | .mk (.ok (.terms f limit)) parts, docs => by
    have hcells : rank (termCells f (docs.map (.renumber g))) =
        (rank (termCells f docs)).map (.renumber g) := by
      rw [termCells, Cell.group_renumber g _ (fun _ => rfl), rank_renumber]
      rfl
    rw [summary_terms, summary_terms, hcells, ← List.map_take, Cell.count_renumber,
      Cell.count_renumber, buckets_renumber (summaries_renumber h parts)]
  | .mk (.ok (.histogram f interval least)) parts, docs => by
    rw [summary_histogram, summary_histogram, stepCells_renumber,
      buckets_renumber (summaries_renumber h parts)]
  | .mk (.ok (.composite sources limit after)) parts, docs => by
    have hcells : page limit after (comboCells sources (docs.map (.renumber g))) =
        (page limit after (comboCells sources docs)).map (.renumber g) := by
      rw [comboCells, Cell.group_renumber g _ (fun _ => rfl), page_renumber]
      rfl
    rw [summary_composite, summary_composite, hcells, pageJson_renumber,
      buckets_renumber (summaries_renumber h parts)]
  | .mk (.ok (.metric m f)) parts, docs => by
    rw [summary_metric, summary_metric, measure_renumber]
  | .mk (.ok (.cardinality f)) parts, docs => by
    rw [summary_cardinality, summary_cardinality, cardinality_renumber]
  | .mk (.ok (.filter q)) parts, docs => by
    rw [summary_filter, summary_filter, filter_renumber g (finds q),
      bucket_renumber (summaries_renumber h parts)]
  | .mk (.ok (.nested path)) parts, docs => by
    rw [summary_nested, summary_nested, nestedParts_renumber,
      bucket_renumber (summaries_renumber h parts)]
  | .mk (.ok .whole) parts, docs => by
    rw [summary_whole, summary_whole, wholeParts_renumber h,
      bucket_renumber (summaries_renumber h parts)]

theorem summaries_renumber (h : Embeds g some all) :
    ∀ (bs : List (String × Breakdown)) (docs : List Part),
      summaries all bs (docs.map (.renumber g)) = summaries some bs docs
  | [], _ => by rw [summaries, summaries]
  | (name, b) :: rest, docs => by
    rw [summaries, summaries, summary_renumber h b, summaries_renumber h rest]

end

end

end Breakdown

end EntityStore.Indices

import ReconcileFlow.Ingestion.Loading
import ReconcileFlow.Support.Lookup

/-!
# Ingestion — Headers

When the first steps of a loader return, and what: the headers and the rows that `read` makes of the
cells (`read_eq_ok_iff`), the fields of the headers (`resolveHeaders_eq_ok_iff`), and the rows under
the canonical fields (`mappedRows_eq_ok_iff`).
-/

namespace ReconcileFlow.Ingestion

open Support

section

variable {py : Runtime} {config : IngestionConfig} {canonical : List String}

/-- The fields of the headers that have one. -/
def resolution (py : Runtime) (config : IngestionConfig) (canonical headers : List String) :
    List (String × String) :=
  headers.filterMap fun header =>
    (resolve py config canonical header).map fun target => (header, target)

/-- The field of a header, among those of all headers. -/
theorem lookup_resolution {headers : List String} {header : String} (h : header ∈ headers) :
    (resolution py config canonical headers).lookup header =
      resolve py config canonical header := by
  rw [resolution, lookup_filterMap, if_pos h]

theorem find_repeated {names : List String} :
    (names.find? fun name => decide (1 < names.count name)) = none ↔ names.Nodup := by
  simp only [List.find?_eq_none, decide_eq_true_eq, not_lt, List.nodup_iff_count_le_one]
  constructor
  · intro h name
    by_cases hname : name ∈ names
    · exact h name hname
    · rw [List.count_eq_zero_of_not_mem hname]
      exact Nat.zero_le 1
  · exact fun h name _ => h name

theorem read_eq_ok_iff {data : List (List Cell)} {headers : List String} {rows : List Row} :
    read py data = .ok (headers, rows) ↔ ∃ first rest, data = first :: rest ∧
      first.any Cell.isPresent = true ∧ headers = first.map (headerOf py) ∧ "" ∉ headers ∧
      (headers.map (key py)).Nodup ∧ rows = rowsOf headers rest := by
  cases data with
  | nil => exact ⟨nofun, fun ⟨_, _, h, _⟩ => nomatch h⟩
  | cons first rest =>
    simp only [read]
    rw [bind_eq_ok_iff]
    constructor
    · rintro ⟨_, hpresent, h⟩
      obtain ⟨_, hblank, h⟩ := bind_eq_ok_iff.mp h
      split at h
      · cases h
      · next hfind =>
        cases h
        exact ⟨first, rest, rfl, must_eq_ok_iff.mp hpresent, rfl, must_eq_ok_iff.mp hblank,
          find_repeated.mp hfind, rfl⟩
    · rintro ⟨_, _, hdata, hpresent, rfl, hblank, hnodup, rfl⟩
      cases hdata
      refine ⟨(), must_eq_ok_iff.mpr hpresent, bind_eq_ok_iff.mpr ⟨(), must_eq_ok_iff.mpr hblank, ?_⟩⟩
      rw [find_repeated.mpr hnodup]
      rfl

theorem nodup_headers_of_read {data : List (List Cell)} {headers : List String} {rows : List Row}
    (h : read py data = .ok (headers, rows)) : headers.Nodup := by
  obtain ⟨_, _, _, _, _, _, hnodup, _⟩ := read_eq_ok_iff.mp h
  exact hnodup.of_map

/-- The cells of a row are under different headers of the table. -/
theorem row_of_read {data : List (List Cell)} {headers : List String} {rows : List Row}
    (h : read py data = .ok (headers, rows)) {row : Row} (hrow : row ∈ rows) :
    ∃ values, row.values = headers.zip values := by
  obtain ⟨_, rest, _, _, _, _, _, rfl⟩ := read_eq_ok_iff.mp h
  obtain ⟨⟨values, index⟩, -, rfl⟩ := List.mem_map.mp hrow
  exact ⟨values, rfl⟩

theorem nodup_values_of_read {data : List (List Cell)} {headers : List String} {rows : List Row}
    (h : read py data = .ok (headers, rows)) {row : Row} (hrow : row ∈ rows) :
    (row.values.map Prod.fst).Nodup := by
  obtain ⟨values, hvalues⟩ := row_of_read h hrow
  rw [hvalues]
  exact (nodup_headers_of_read h).sublist (map_fst_zip_sublist headers values)

/-- The step of `resolve_headers`. -/
def resolveStep (py : Runtime) (config : IngestionConfig) (canonical : List String)
    (resolved : List (String × String)) (header : String) :
    Except IngestionError (List (String × String)) :=
  match resolve py config canonical header with
  | none => .ok resolved
  | some target =>
    if target ∈ resolved.map Prod.snd then
      .error {
        message := "multiple source columns map to " ++ py.repr target
        row := some 1 }
    else .ok (resolved ++ [(header, target)])

/-- The headers resolve if no two of them have the same field. -/
theorem resolveHeaders_eq_ok_iff {headers : List String} {resolved : List (String × String)} :
    resolveHeaders py config canonical headers = .ok resolved ↔
      resolved = resolution py config canonical headers ∧ (resolved.map Prod.snd).Nodup := by
  -- the loop, from the headers that are resolved already
  suffices h : ∀ before : List (String × String), (before.map Prod.snd).Nodup →
      (headers.foldlM (resolveStep py config canonical) before = .ok resolved ↔
        resolved = before ++ resolution py config canonical headers ∧
          (resolved.map Prod.snd).Nodup) from h [] List.nodup_nil
  induction headers with
  | nil =>
    intro before hbefore
    simp only [resolution, List.filterMap_nil, List.append_nil]
    constructor
    · intro h
      obtain rfl : before = resolved := Except.ok.inj h
      exact ⟨rfl, hbefore⟩
    · rintro ⟨rfl, -⟩
      rfl
  | cons header headers ih =>
    intro before hbefore
    rw [List.foldlM_cons, bind_eq_ok_iff, resolution]
    simp only [resolveStep]
    cases htarget : resolve py config canonical header with
    | none =>
      rw [List.filterMap_cons_none (by rw [htarget]; rfl)]
      constructor
      · rintro ⟨_, hstep, h⟩
        cases hstep
        exact (ih before hbefore).mp h
      · exact fun h => ⟨before, rfl, (ih before hbefore).mpr h⟩
    | some target =>
      rw [List.filterMap_cons_some (by rw [htarget]; rfl)]
      by_cases hmem : target ∈ before.map Prod.snd
      · refine iff_of_false ?_ ?_
        · rintro ⟨_, hstep, -⟩
          simp only [hmem, if_true] at hstep
          cases hstep
        · rintro ⟨rfl, hnodup⟩
          rw [List.map_append, List.map_cons] at hnodup
          exact List.disjoint_of_nodup_append hnodup hmem List.mem_cons_self
      · have hnext : ((before ++ [(header, target)]).map Prod.snd).Nodup := by
          rw [List.map_append, List.map_singleton]
          exact List.nodup_append'.mpr
            ⟨hbefore, List.nodup_singleton _, List.disjoint_singleton.mpr hmem⟩
        rw [List.append_cons]
        constructor
        · rintro ⟨_, hstep, h⟩
          simp only [hmem, if_false] at hstep
          cases hstep
          exact (ih _ hnext).mp h
        · intro h
          refine ⟨_, ?_, (ih _ hnext).mpr h⟩
          simp only [hmem, if_false]

theorem mapRows_eq_ok_iff {headers required : List String} {rows : List Row}
    {mapped : List MappedRow} :
    mapRows py config canonical headers rows required = .ok mapped ↔
      invalidTargets py config canonical = [] ∧
        ((resolution py config canonical headers).map Prod.snd).Nodup ∧
        required ⊆ (resolution py config canonical headers).map Prod.snd ∧
        mapped = rows.map (mapRow (resolution py config canonical headers)) := by
  have hrequired : ∀ resolved : List (String × String),
      sortOn id (required.filter fun name => decide (name ∉ resolved.map Prod.snd)) = [] ↔
        required ⊆ resolved.map Prod.snd := by
    intro resolved
    rw [← List.length_eq_zero_iff, (sortOn_perm _ _).length_eq, List.length_eq_zero_iff,
      List.filter_eq_nil_iff]
    simp only [decide_eq_true_eq, not_not]
    rfl
  simp only [mapRows]
  rw [bind_eq_ok_iff]
  constructor
  · rintro ⟨_, hinvalid, h⟩
    obtain ⟨resolved, hresolved, h⟩ := bind_eq_ok_iff.mp h
    obtain ⟨rfl, hnodup⟩ := resolveHeaders_eq_ok_iff.mp hresolved
    obtain ⟨_, hmissing, h⟩ := bind_eq_ok_iff.mp h
    cases h
    exact ⟨must_eq_ok_iff.mp hinvalid, hnodup, (hrequired _).mp (must_eq_ok_iff.mp hmissing), rfl⟩
  · rintro ⟨hinvalid, hnodup, hmissing, rfl⟩
    refine ⟨(), must_eq_ok_iff.mpr hinvalid, ?_⟩
    refine bind_eq_ok_iff.mpr ⟨_, resolveHeaders_eq_ok_iff.mpr ⟨rfl, hnodup⟩, ?_⟩
    exact bind_eq_ok_iff.mpr ⟨(), must_eq_ok_iff.mpr ((hrequired _).mpr hmissing), rfl⟩

/-- The headers and the rows of a table whose headers all have fields of their own and give the
required ones. -/
structure Headed (py : Runtime) (config : IngestionConfig) (canonical required : List String)
    (data : List (List Cell)) (headers : List String) (rows : List Row) : Prop where
  read : read py data = .ok (headers, rows)
  valid : invalidTargets py config canonical = []
  distinct : ((resolution py config canonical headers).map Prod.snd).Nodup
  complete : required ⊆ (resolution py config canonical headers).map Prod.snd

theorem mappedRows_eq_ok_iff {required : List String} {data : List (List Cell)}
    {mapped : List MappedRow} :
    mappedRows py config canonical required data = .ok mapped ↔
      ∃ headers rows, Headed py config canonical required data headers rows ∧
        mapped = rows.map (mapRow (resolution py config canonical headers)) := by
  unfold mappedRows
  rw [mapError_eq_ok_iff, bind_eq_ok_iff]
  constructor
  · rintro ⟨⟨headers, rows⟩, hread, h⟩
    obtain ⟨hvalid, hdistinct, hcomplete, hmapped⟩ := mapRows_eq_ok_iff.mp h
    exact ⟨headers, rows, ⟨hread, hvalid, hdistinct, hcomplete⟩, hmapped⟩
  · rintro ⟨headers, rows, h, hmapped⟩
    exact ⟨(headers, rows), h.read, mapRows_eq_ok_iff.mpr ⟨h.valid, h.distinct, h.complete, hmapped⟩⟩

/-! ### Headers that name their fields -/

/-- The characters of a key, before its case is folded. -/
def keyChars (value : List Char) : List Char :=
  let stripped := ((value.dropWhile isSpace).reverse.dropWhile isSpace).reverse
  let spaced := stripped.map fun c => if c = '_' ∨ c = '-' then ' ' else c
  [' '].intercalate ((spaced.splitOnP isSpace).filter (· ≠ []))

theorem key_eq (value : String) : key py value = py.casefold (String.ofList (keyChars value.toList)) := by
  refine congrArg py.casefold (String.toList_injective ?_)
  have hreplace (l : List Char) : (l.map fun c => if c = '_' then ' ' else c).map
      (fun c => if c = '-' then ' ' else c) = l.map fun c => if c = '_' ∨ c = '-' then ' ' else c := by
    rw [List.map_map]
    refine List.map_congr_left fun c _ => ?_
    by_cases hc : c = '_' <;> simp [hc]
  rw [String.toList_intercalate, String.toList_ofList, split, List.map_map]
  simp only [replaceChar, strip, String.toList_ofList, hreplace, keyChars]
  congr 1
  simp [Function.comp_def]

/-- The texts that stand for a field: its name and its aliases. -/
def spellings (canonical : List String) : List (String × String) :=
  (canonical.map fun name => (name, name)) ++
    (aliases.filter fun (name, _) => decide (name ∈ canonical)).flatMap fun (name, texts) =>
      texts.map fun text => (name, text)

theorem lookupPairs_eq : lookupPairs py canonical =
    (spellings canonical).map fun p => (key py p.2, p.1) := by
  simp [lookupPairs, spellings, List.map_flatMap, Function.comp_def]

/-- A text that stands for one field only resolves to it. -/
theorem resolve_eq_some (hconfig : config.columnMapping = []) {header name text : String}
    (hmem : (name, text) ∈ spellings canonical) (hkey : key py text = key py header)
    (hunique : ∀ p ∈ spellings canonical, key py p.2 = key py header → p.1 = name) :
    resolve py config canonical header = some name := by
  have hlookup : lastLookup (lookupPairs py canonical) (key py header) = some name := by
    rw [lastLookup, lookupPairs_eq]
    refine lookup_of_unique (List.mem_reverse.mpr (List.mem_map.mpr ⟨_, hmem, ?_⟩)) ?_
    · rw [hkey]
    · intro name' h
      obtain ⟨p, hp, heq⟩ := List.mem_map.mp (List.mem_reverse.mp h)
      obtain ⟨hpkey, rfl⟩ := Prod.mk.inj heq
      exact hunique p hp hpkey
  have hexplicit : explicitPairs py config = [] := by rw [explicitPairs, hconfig]; rfl
  rw [resolve, hexplicit]
  exact hlookup

/-- A text that stands for no field does not resolve. -/
theorem resolve_eq_none (hconfig : config.columnMapping = []) {header : String}
    (h : ∀ p ∈ spellings canonical, key py p.2 ≠ key py header) :
    resolve py config canonical header = none := by
  have hlookup : lastLookup (lookupPairs py canonical) (key py header) = none := by
    rw [lastLookup, lookupPairs_eq, List.lookup_eq_none_iff]
    intro q hq
    obtain ⟨p, hp, rfl⟩ := List.mem_map.mp (List.mem_reverse.mp hq)
    exact bne_iff_ne.mpr (h p hp).symm
  have hexplicit : explicitPairs py config = [] := by rw [explicitPairs, hconfig]; rfl
  rw [resolve, hexplicit]
  exact hlookup

/-! ### Tables whose headers are texts -/

theorem read_texts {headers : List String} (hne : headers ≠ [])
    (htext : ∀ header ∈ headers, isText header = true) (hkeys : (headers.map (key py)).Nodup)
    (rest : List (List Cell)) :
    read py (headers.map Cell.text :: rest) = .ok (headers, rowsOf headers rest) := by
  have hempty : isText "" = false := rfl
  have hstrip : headers = (headers.map Cell.text).map (headerOf py) := by
    rw [List.map_map]
    conv_lhs => rw [← List.map_id headers]
    exact List.map_congr_left fun header hh => (strip_of_isText (htext header hh)).symm
  refine read_eq_ok_iff.mpr ⟨_, rest, rfl, ?_, hstrip, fun hmem => ?_, hkeys, rfl⟩
  · obtain ⟨header, hmem⟩ := List.exists_mem_of_ne_nil headers hne
    refine List.any_eq_true.mpr ⟨_, List.mem_map_of_mem hmem, ?_⟩
    refine Bool.and_eq_true_iff.mpr ⟨decide_eq_true nofun, decide_eq_true fun h => ?_⟩
    have := htext header hmem
    rw [Cell.text.inj h, hempty] at this
    cases this
  · have := htext "" hmem
    rw [hempty] at this
    cases this

end

/-! ### The headers of an ERP export -/

theorem equivalence_decide_eq (α : Type) [DecidableEq α] :
    Equivalence fun a b : α => decide (a = b) = true := by
  simpa only [decide_eq_true_eq] using eq_equivalence

/-- A run time for texts that fold to themselves, on one day. -/
def plainRuntime : Runtime where
  casefold := id
  upper := id
  repr text := "'" ++ text ++ "'"
  dateText _ := "2026-01-05"
  datetimeText _ := "2026-01-05 00:00:00"
  dateFromIso text :=
    if text = "2026-01-05" then .ok 739927
    else .error ("Invalid isoformat string: '" ++ text ++ "'")
  datetimeFromIso text :=
    if text = "2026-01-05" then .ok ⟨739927, 0, none⟩
    else .error ("Invalid isoformat string: '" ++ text ++ "'")
  sameTime a b := decide (a = b)
  sameTime_equivalence := equivalence_decide_eq Datetime
  loads _ := .error "Expecting value: line 1 column 1 (char 0)"
  digit _ := none
  isdigit text := text.toList.all Char.isDigit

/-- The headers that an ERP export must have, and one that gives no field. -/
def sampleHeaders : List String := erpRequired ++ ["channel"]

theorem nodup_erpRequired : erpRequired.Nodup := by
  simp [erpRequired, erpInvoice, invoiceLine]

/-- No spelling of a field is one of another of the headers. -/
theorem spellings_apart : ∀ p ∈ ("channel", "channel") :: spellings erpFields,
    ∀ header ∈ sampleHeaders, keyChars p.2.toList = keyChars header.toList → p.1 = header := by
  decide +kernel

theorem keyChars_of_key {a b : String} (h : key plainRuntime a = key plainRuntime b) :
    keyChars a.toList = keyChars b.toList := by
  rw [key_eq, key_eq] at h
  exact String.ofList_injective h

theorem mem_spellings {name : String} (h : name ∈ erpRequired) :
    (name, name) ∈ spellings erpFields := by
  -- both models list their required fields first
  have hinvoice : erpInvoice.fields = erpInvoice.required ++ erpInvoice.fields.drop 21 := rfl
  have hline : invoiceLine.fields = invoiceLine.required ++ invoiceLine.fields.drop 9 := rfl
  have hfield : name ∈ erpFields := by
    rw [erpFields, hinvoice, hline]
    rcases List.mem_append.mp h with h | h <;> simp [h]
  exact List.mem_append_left _ (List.mem_map.mpr ⟨name, hfield, rfl⟩)

theorem resolve_required {name : String} (h : name ∈ erpRequired) :
    resolve plainRuntime {} erpFields name = some name :=
  resolve_eq_some rfl (mem_spellings h) rfl fun p hp hkey =>
    spellings_apart p (List.mem_cons_of_mem _ hp) name (List.mem_append_left _ h)
      (keyChars_of_key hkey)

theorem resolve_channel : resolve plainRuntime {} erpFields "channel" = none := by
  have hfield : "channel" ∉ erpFields := by
    simp [erpFields, erpInvoice, invoiceLine]
  refine resolve_eq_none rfl fun p hp hkey => hfield ?_
  rw [← spellings_apart p (List.mem_cons_of_mem _ hp) "channel" (by simp [sampleHeaders])
    (keyChars_of_key hkey)]
  rcases List.mem_append.mp hp with hp | hp
  · obtain ⟨name, hname, rfl⟩ := List.mem_map.mp hp
    exact hname
  · obtain ⟨⟨name, texts⟩, hname, hp⟩ := List.mem_flatMap.mp hp
    obtain ⟨text, -, rfl⟩ := List.mem_map.mp hp
    exact of_decide_eq_true (List.mem_filter.mp hname).2

theorem nodup_keys {headers : List String} (hnodup : headers.Nodup) (h : headers ⊆ sampleHeaders) :
    (headers.map (key plainRuntime)).Nodup := by
  refine hnodup.map_on fun a ha b hb hkey => ?_
  have hspelled : (a, a) ∈ ("channel", "channel") :: spellings erpFields := by
    rcases List.mem_append.mp (h ha) with ha | ha
    · exact List.mem_cons_of_mem _ (mem_spellings ha)
    · rw [List.mem_singleton.mp ha]
      exact List.mem_cons_self
  exact spellings_apart (a, a) hspelled b (h hb) (keyChars_of_key hkey)

theorem resolution_sample {headers : List String} (h : headers ⊆ sampleHeaders) :
    resolution plainRuntime {} erpFields headers =
      (headers.filter (· ∈ erpRequired)).map fun header => (header, header) := by
  have hchannel : "channel" ∉ erpRequired := by
    simp [erpRequired, erpInvoice, invoiceLine]
  induction headers with
  | nil => rfl
  | cons header headers ih =>
    obtain ⟨hheader, hrest⟩ := List.cons_subset.mp h
    rw [resolution, List.filterMap_cons]
    rcases List.mem_append.mp hheader with hin | hin
    · have hfilter : (header :: headers).filter (· ∈ erpRequired) =
          header :: headers.filter (· ∈ erpRequired) := List.filter_cons_of_pos (by simpa using hin)
      rw [resolve_required hin, hfilter, List.map_cons, ← ih hrest]
      rfl
    · obtain rfl := List.mem_singleton.mp hin
      have hfilter : ("channel" :: headers).filter (· ∈ erpRequired) =
          headers.filter (· ∈ erpRequired) := List.filter_cons_of_neg (by simpa using hchannel)
      rw [resolve_channel, hfilter, ← ih hrest]
      rfl

/-- A table under these headers has the rows that its cells give. -/
theorem mappedRows_sample {headers : List String} (hnodup : headers.Nodup)
    (hsample : headers ⊆ sampleHeaders) (hrequired : erpRequired ⊆ headers)
    (rest : List (List Cell)) :
    mappedRows plainRuntime {} erpFields erpRequired (headers.map Cell.text :: rest) =
      .ok ((rowsOf headers rest).map
        (mapRow ((headers.filter (· ∈ erpRequired)).map fun header => (header, header)))) := by
  have htext : ∀ header ∈ sampleHeaders, isText header = true := by
    simp only [sampleHeaders, erpRequired, erpInvoice, invoiceLine, List.cons_append, List.nil_append]
    decide +kernel
  have hne : headers ≠ [] := by
    rintro rfl
    exact absurd (hrequired (List.mem_cons_self : "source_system" ∈ erpRequired)) List.not_mem_nil
  have hfields : (resolution plainRuntime {} erpFields headers).map Prod.snd =
      headers.filter (· ∈ erpRequired) := by
    rw [resolution_sample hsample, List.map_map]
    exact List.map_id _
  rw [← resolution_sample hsample]
  refine mappedRows_eq_ok_iff.mpr ⟨headers, _, ⟨?_, rfl, ?_, ?_⟩, rfl⟩
  · exact read_texts hne (fun header hh => htext header (hsample hh)) (nodup_keys hnodup hsample) rest
  · rw [hfields]
    exact hnodup.filter _
  · rw [hfields]
    exact fun name hname => List.mem_filter.mpr ⟨hrequired hname, decide_eq_true hname⟩

end ReconcileFlow.Ingestion

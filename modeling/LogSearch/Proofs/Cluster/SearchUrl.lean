import LogSearch.Cluster.Client
import LogSearch.Proofs.Text.LastMark
import LogSearch.Proofs.Text.PercentEncoded

/-!
# Names in the URL of a search

The URL of a search holds the names of its indices in one segment of its path, percent-encoded and
with commas between them.

Main statement: the names can be taken from the segment, and the segment from the URL, so that searches
of different indices have different URLs (`Cluster.searchUrl_names`).
-/

namespace LogSearch.Cluster

variable {cluster other : Cluster} {names others : List String} {c : Char}

/-! ## Segments -/

/-- A text stands for names in the path of a URL: it is a single segment, and its pieces between the
commas are the names, percent-encoded. -/
structure IsSegment (text : List Char) (names : List String) : Prop where
  single : ∀ c ∈ text, c ≠ '/' ∧ c ≠ '?' ∧ c ≠ '#'
  pieces : (text.splitOn ',').mapM percentDecode? = some names

/-- A text stands for at most one list of names. -/
theorem IsSegment.unique {text : List Char} (h : IsSegment text names)
    (hothers : IsSegment text others) : names = others :=
  Option.some.inj (h.pieces.symm.trans hothers.pieces)

theorem of_mem_nameSegment (h : c ∈ nameSegment names) :
    isUnreserved c = true ∨ c = '%' ∨ c = ',' := by
  have hpiece : ∀ {name : String}, c ∈ percentEncode name →
      isUnreserved c = true ∨ c = '%' ∨ c = ',' := fun hc =>
    (of_mem_percentEncode hc).imp_right .inl
  rw [nameSegment] at h
  induction names with
  | nil => cases h
  | cons name names ih =>
    cases names with
    | nil =>
      rw [List.map_singleton, List.intercalate_singleton] at h
      exact hpiece h
    | cons next names =>
      rw [List.map_cons, List.map_cons, List.intercalate_cons_cons, List.mem_append,
        List.mem_append, List.mem_singleton] at h
      rcases h with (hname | hcomma) | hrest
      · exact hpiece hname
      · exact .inr (.inr hcomma)
      · exact ih hrest

/-- No character that is written ends the segment. -/
theorem single_nameSegment (h : c ∈ nameSegment names) : c ≠ '/' ∧ c ≠ '?' ∧ c ≠ '#' := by
  rcases of_mem_nameSegment h with hunreserved | rfl | rfl
  · refine ⟨?_, ?_, ?_⟩ <;> rintro rfl <;> cases hunreserved
  · decide
  · decide

/-- **Encoded names with commas between them stand for the names.** -/
theorem isSegment_nameSegment (h : names ≠ []) : IsSegment (nameSegment names) names where
  single _ hc := single_nameSegment hc
  pieces := by
    have hsplit : (nameSegment names).splitOn ',' = names.map percentEncode := by
      refine List.splitOn_intercalate ',' ?_ (by simpa using h)
      intro piece hpiece hcomma
      obtain ⟨name, -, rfl⟩ := List.mem_map.mp hpiece
      rcases of_mem_percentEncode hcomma with hunreserved | hpercent
      · cases hunreserved
      · cases hpercent
    rw [hsplit]
    exact mapM_percentDecode? names

/-! ## URLs -/

/-- The URL of a cluster is the given one without the slashes at its end. -/
theorem baseUrl_ofUrl (url : String) :
    (∃ slashes, url.toList = (ofUrl url).baseUrl.toList ++ List.replicate slashes '/')
      ∧ (ofUrl url).baseUrl.toList.getLast? ≠ some '/' := by
  have hbase : (ofUrl url).baseUrl.toList = (url.toList.reverse.dropWhile (· == '/')).reverse :=
    String.toList_ofList
  rw [hbase]
  constructor
  · have hslashes : ∀ c ∈ url.toList.reverse.takeWhile (· == '/'), c = '/' :=
      fun c hc => by simpa using List.mem_takeWhile_imp hc
    refine ⟨(url.toList.reverse.takeWhile (· == '/')).length, ?_⟩
    rw [← List.reverse_replicate, ← List.eq_replicate_of_mem hslashes, ← List.reverse_append,
      List.takeWhile_append_dropWhile, List.reverse_reverse]
  · intro hlast
    rw [List.getLast?_reverse] at hlast
    have hstop := List.head?_dropWhile_not (· == '/') url.toList.reverse
    rw [hlast] at hstop
    cases hstop

/-- Where the segment stands in the URL of a search. -/
theorem searchUrl_eq (cluster : Cluster) (names : List String) :
    cluster.searchUrl names = cluster.baseUrl ++ "/" ++ String.ofList (nameSegment names)
      ++ "/_search?ignore_unavailable=true&allow_no_indices=true" := by
  rw [searchUrl, url, ← String.toList_inj]
  simp

/-- **Searches with the same URL** are searches of one cluster, and have the same segment: it stands
behind the last slash before the end that all of them have. -/
theorem searchUrl_inj (h : cluster.searchUrl names = other.searchUrl others) :
    cluster = other ∧ nameSegment names = nameSegment others := by
  have hslash : ∀ {names : List String}, '/' ∉ nameSegment names :=
    fun hmem => (single_nameSegment hmem).1 rfl
  have hfront : cluster.baseUrl ++ "/" ++ String.ofList (nameSegment names)
      = other.baseUrl ++ "/" ++ String.ofList (nameSegment others) := by
    rwa [searchUrl_eq, searchUrl_eq, String.append_left_inj] at h
  have hparts : cluster.baseUrl.toList ++ '/' :: nameSegment names
      = other.baseUrl.toList ++ '/' :: nameSegment others := by
    simpa using congrArg String.toList hfront
  obtain ⟨hbase, hsegment⟩ := append_cons_inj_of_not_mem hslash hslash hparts
  exact ⟨congrArg Cluster.mk (String.toList_inj.mp hbase), hsegment⟩

/-- **The names of a search can be taken from its URL.** Between the URL of the cluster, which is the
given one without the slashes at its end, and the end that all searches have stands a single segment
for the names; no search of other names, or of another cluster, has the same URL. -/
theorem searchUrl_names (url : String) (names : List String) (h : names ≠ []) :
    (∃ slashes, url.toList = (ofUrl url).baseUrl.toList ++ List.replicate slashes '/')
      ∧ (ofUrl url).baseUrl.toList.getLast? ≠ some '/'
      ∧ (∃ segment : String, IsSegment segment.toList names
        ∧ (ofUrl url).searchUrl names = (ofUrl url).baseUrl ++ "/" ++ segment
          ++ "/_search?ignore_unavailable=true&allow_no_indices=true")
      ∧ ∀ (other : Cluster) (others : List String), others ≠ [] →
        other.searchUrl others = (ofUrl url).searchUrl names → other = ofUrl url ∧ others = names := by
  have hsegment := isSegment_nameSegment h
  refine ⟨(baseUrl_ofUrl url).1, (baseUrl_ofUrl url).2, ⟨String.ofList (nameSegment names), ?_,
    searchUrl_eq _ _⟩, fun other others hothers hurl => ?_⟩
  · rw [String.toList_ofList]
    exact hsegment
  · obtain ⟨hcluster, hsame⟩ := searchUrl_inj hurl
    exact ⟨hcluster, (hsame ▸ isSegment_nameSegment hothers).unique hsegment⟩

/-- Names with commas, delimiters and other characters in them; `é` has two bytes. -/
theorem searchUrl_names_delimiters :
    ["a,b", "c/d?", "100%#é"] ≠ []
      ∧ (∃ segment : String, IsSegment segment.toList ["a,b", "c/d?", "100%#é"]
        ∧ (ofUrl "http://h//").searchUrl ["a,b", "c/d?", "100%#é"]
          = "http://h/" ++ segment ++ "/_search?ignore_unavailable=true&allow_no_indices=true")
      ∧ (ofUrl "http://h//").searchUrl ["a", "b", "c/d?", "100%#é"]
        ≠ (ofUrl "http://h//").searchUrl ["a,b", "c/d?", "100%#é"] := by
  have hne : ["a,b", "c/d?", "100%#é"] ≠ [] := by simp
  have hbase : (ofUrl "http://h//").baseUrl ++ "/" = "http://h/" := by decide
  obtain ⟨-, -, hsegment, hunique⟩ := searchUrl_names "http://h//" _ hne
  rw [hbase] at hsegment
  refine ⟨hne, hsegment, fun hurl => ?_⟩
  exact absurd (hunique _ ["a", "b", "c/d?", "100%#é"] (by simp) hurl).2 (by decide)

end LogSearch.Cluster

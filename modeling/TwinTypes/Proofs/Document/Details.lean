import TwinTypes.Proofs.Document.Readings
import TwinTypes.Proofs.LastNamed

/-!
# The report of a pair reads back

The third file of a pair is the one that is made for readers other than people. It is decoded as the
report that it was written from, but for the members that became nothing: these are no part of a
document, and the decoded report has none of them, whatever the one that was computed had
(`details_read_back`).

That the text is read as the value that it was printed from is a matter of the notation and is
assumed (`TwinTypes.Yaml.ReadsBack`). What there is to say besides is that the names in the report
are those that were asked for, also where nothing is known of them
(`TwinTypes.Registry.name_lookup`), and that the reader of records finds in that value what the
writer of reports put there (`TwinTypes.Yaml.parseReport_of_parseValue`).
-/

namespace TwinTypes

/-- A report without the members that became nothing has the text of the whole report. -/
theorem Report.text_mapped (r : Report) : r.mapped.text = r.text := by
  rw [Report.text, Report.toValue_mapped, Report.text]

/-- **The report of a pair is decoded as itself**, for names that are known and for others: its
names are those of the pair, its matches are those of the two shapes, one by one and in order, and
no member is left over in it. Written once more it has the same text. -/
theorem details_read_back {registry : Registry} {kotlin java : String}
    (hback : Yaml.ReadsBack (registry.infer kotlin java).toValue) :
    ∃ report, Yaml.parseReport (renderPair registry ⟨kotlin, java⟩).details = .ok report ∧
      report.kotlinType = kotlin ∧ report.javaType = java ∧
      report.properties =
        (correspond (registry.lookup kotlin) (registry.lookup java)).properties ∧
      report.methods = (correspond (registry.lookup kotlin) (registry.lookup java)).methods ∧
      report.unmappedProperties = [] ∧ report.unmappedMethods = [] ∧
      report.text = (renderPair registry ⟨kotlin, java⟩).details := by
  refine ⟨(registry.infer kotlin java).mapped, Yaml.parseReport_of_parseValue hback,
    registry.name_lookup kotlin, registry.name_lookup java, rfl, rfl, rfl, rfl, ?_⟩
  exact Report.text_mapped _

/-- A table of two types with names that look like something else. -/
def oddlyNamed : Registry :=
  .ofDescriptors [⟨"null", .interfaceKind, none, ["get", "a: b"], some ["- #"]⟩,
    ⟨"~\n", .classKind, some "null", ["charAt"], none⟩]

/-- Members are left over on the way and are not in the document. -/
theorem details_read_back_odd :
    Yaml.ReadsBack (oddlyNamed.infer "null" "~\n").toValue ∧
      (oddlyNamed.infer "null" "~\n").unmappedProperties = ["- #"] ∧
      (oddlyNamed.infer "null" "~\n").unmappedMethods = ["a: b"] ∧
      ∃ report, Yaml.parseReport (renderPair oddlyNamed ⟨"null", "~\n"⟩).details = .ok report ∧
        report.kotlinType = "null" ∧ report.javaType = "~\n" ∧
        report.methods = [⟨"get", "charAt", indexedAccessNote⟩] ∧
        report.unmappedMethods = [] := by
  have hback : Yaml.ReadsBack (oddlyNamed.infer "null" "~\n").toValue :=
    Yaml.readsBack_of_agrees (by decide +kernel)
  obtain ⟨report, hparse, hkotlin, hjava, -, hmethods, -, hunmapped, -⟩ := details_read_back hback
  refine ⟨hback, by decide, by decide, report, hparse, hkotlin, hjava, ?_, hunmapped⟩
  rw [hmethods]
  decide

end TwinTypes

import ReportMigration.Signature
/-!
What is asked of the generator of a visual.
-/
namespace ReportMigration.VisualRequest

/-- The fields of a request. All but the first two may be left out. -/
def signature : Signature where
  title := "VisualRequest.__new__"
  hasReceiver := true
  parameters :=
    [⟨"worksheet_name", none⟩, ⟨"visual_type", none⟩, ⟨"rows", some (.arr [])⟩,
      ⟨"cols", some (.arr [])⟩, ⟨"panes", some (.arr [])⟩, ⟨"filters", some (.arr [])⟩,
      ⟨"semantic_data", some (.obj [])⟩, ⟨"datasource_columns", some (.arr [])⟩,
      ⟨"worksheet_style_data", some (.obj [])⟩, ⟨"worksheet_title_data", some (.obj [])⟩,
      ⟨"tooltip_sheetname", some (.str "")⟩, ⟨"is_tooltip_source", some (.bool false)⟩,
      ⟨"small_multiples", some (.bool false)⟩, ⟨"visual_filters", some (.arr [])⟩]

/-- A request with the given fields. -/
def make (fields : List (String × Json)) : Except Fault (List (String × Json)) :=
  signature.bind [] fields

end ReportMigration.VisualRequest

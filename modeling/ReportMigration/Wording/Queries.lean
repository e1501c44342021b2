import ReportMigration.Wording.Constant
/-!
Templates for the selections and filters of queries.
-/
namespace ReportMigration.Wording

/-- Selections, references and filters in queries. -/
def queries : List (String × Constant) := [
  ("TRUNCATED_DATE_TIME",
    .value (.obj [
      ("tyr", .arr [.str "yr"]),
      ("tqr", .arr [.str "yr", .str "qr"]),
      ("tmn", .arr [.str "yr", .str "qr", .str "mn"]),
      ("twk", .arr [.str "yr", .str "qr", .str "mn"]),
      ("tdy", .arr [.str "yr", .str "qr", .str "mn", .str "dy"])])),
  ("AGGREGATION_SELECTION", .joined [
    "\x7b\x7b\"Aggregation\": \x7b\x7b\"Expression\": \x7b\x7b\"Column\": \x7b\x7b\"Expression\":",
    " \x7b\x7b\"SourceRef\": \x7b\x7b\"Source\": \"\x7btable_name\x7d\"\x7d\x7d\x7d\x7d,",
    "\"Property\": \"\x7bcolumn\x7d\"\x7d\x7d\x7d\x7d,\"Function\":\x7bselect_function\x7d\x7d",
    "\x7d,\"Name\": \"\x7bquery_ref\x7d\",\"NativeReferenceName\": \"\x7bnative_ref_name\x7d",
    "\"\x7d\x7d"]),
  ("DATE_HEIRARCHY_SELECTION", .joined [
    "\x7b\x7b\"HierarchyLevel\":\x7b\x7b\"Expression\":\x7b\x7b\"Hierarchy\":",
    "\x7b\x7b\"Expression\":\x7b\x7b\"PropertyVariationSource\":\x7b\x7b\"Expression\":",
    "\x7b\x7b\"SourceRef\":\x7b\x7b\"Source\":\"\x7btable_name\x7d\"\x7d\x7d\x7d\x7d,\"Name\":",
    "\"Variation\",\"Property\":\"\x7bcolumn\x7d\"\x7d\x7d\x7d\x7d,\"Hierarchy\":\"Date ",
    "Hierarchy\"\x7d\x7d\x7d\x7d,\"Level\":\"\x7bdate_level\x7d\"\x7d\x7d,\"Name\":",
    "\"\x7bquery_ref\x7d\",\"NativeReferenceName\":\"\x7bcolumn\x7d \x7bdate_level\x7d\"\x7d\x7d"]),
  ("COLUMN_SELECTION", .joined [
    "\x7b\x7b\"Column\": \x7b\x7b\"Expression\": \x7b\x7b\"SourceRef\": \x7b\x7b\"Source\": ",
    "\"\x7btable_name\x7d\"\x7d\x7d\x7d\x7d,\"Property\": \"\x7bcolumn\x7d\"\x7d\x7d,\"Name\": ",
    "\"\x7bquery_ref\x7d\",\"NativeReferenceName\": \"\x7bnative_ref_name\x7d\"\x7d\x7d"]),
  ("MEASURE_COLUMN_SELECTION", .joined [
    "\x7b\x7b\"Measure\": \x7b\x7b\"Expression\": \x7b\x7b\"SourceRef\": \x7b\x7b\"Source\": ",
    "\"\x7btable_name\x7d\"\x7d\x7d\x7d\x7d,\"Property\": \"\x7bcolumn\x7d\"\x7d\x7d,\"Name\": ",
    "\"\x7bquery_ref\x7d\",\"NativeReferenceName\": \"\x7bnative_ref_name\x7d\"\x7d\x7d"]),
  ("DATE_QUERY_REF",
    .text "\x7btable_name\x7d.\x7bcolumn_value\x7d.Variation.Date Hierarchy.\x7bdate_level\x7d"),
  ("AGGREGATION_QUERY_REF", .text "\x7baggregation\x7d(\x7btable_name\x7d.\x7bcolumn_value\x7d)"),
  ("COLUMNN_QUERY_REF", .text "\x7btable_name\x7d.\x7bcolumn_value\x7d"),
  ("DATE_NATIVE_REFERENCE", .text "\x7bcolumn_value\x7d \x7bdate_level\x7d"),
  ("AGGREGATION_NATIVE_REFERENCE", .text "\x7baggregation\x7d of \x7bcolumn_value\x7d"),
  ("PERCENTAGE_SELECTION", .joined [
    "\x7b\x7b\"Arithmetic\": \x7b\x7b\"Left\": \x7b\x7b\"Aggregation\": \x7b\x7b\"Expression\": ",
    "\x7b\x7b\"Column\": \x7b\x7b\"Expression\": \x7b\x7b\"SourceRef\": \x7b\x7b\"Source\": ",
    "\"\x7btable_name\x7d\"\x7d\x7d\x7d\x7d,\"Property\": \"\x7bcolumn\x7d\"\x7d\x7d\x7d\x7d,",
    "\"Function\": \"\x7bselect_function\x7d\"\x7d\x7d\x7d\x7d,\"Right\": \x7b\x7b\"ScopedEval\":",
    " \x7b\x7b\"Expression\": \x7b\x7b\"Aggregation\": \x7b\x7b\"Expression\": ",
    "\x7b\x7b\"Column\": \x7b\x7b\"Expression\": \x7b\x7b\"SourceRef\": \x7b\x7b\"Source\": ",
    "\"\x7btable_name\x7d\"\x7d\x7d\x7d\x7d,\"Property\": \"\x7bcolumn\x7d\"\x7d\x7d\x7d\x7d,",
    "\"Function\": \"\x7bselect_function\x7d\"\x7d\x7d\x7d\x7d,\"Scope\":[]\x7d\x7d\x7d\x7d,",
    "\"Operator\": 3\x7d\x7d,\"Name\": \"\x7bquery_ref\x7d\",\"NativeReferenceName\": \"%GT ",
    "\x7bnative_ref_name\x7d\"\x7d\x7d"]),
  ("GROUPED_SELECTION", .joined [
    "\x7b\x7b\"GroupRef\":\x7b\x7b\"Expression\":\x7b\x7b\"SourceRef\":\x7b\x7b\"Source\":",
    "\"\x7btable_name\x7d\"\x7d\x7d\x7d\x7d,\"Property\":\"\x7bactual_column_name\x7d\",",
    "\"GroupedColumns\":\x7bgrouped_columns_selection_list\x7d\x7d\x7d,\"Name\":\"\x7bqref\x7d\",",
    "\"NativeReferenceName\":\"\x7bactual_column_name\x7d\"\x7d\x7d"]),
  ("GROUPED_COLUMN_SELECTION", .joined [
    "\x7b\x7b\"Column\":\x7b\x7b\"Expression\":\x7b\x7b\"SourceRef\":\x7b\x7b\"Source\":",
    "\"\x7btable_name\x7d\"\x7d\x7d\x7d\x7d,\"Property\":\"\x7bcolumn\x7d\"\x7d\x7d\x7d\x7d"]),
  ("TRUNCATED_DATE_TIME_FILTER",
    .value (.obj [
      ("tyr", .arr [.str "yr"]),
      ("tqr", .arr [.str "yr", .str "qr"]),
      ("tmn", .arr [.str "yr", .str "qr", .str "mn"]),
      ("twk", .arr [.str "yr", .str "qr", .str "mn"]),
      ("tdy", .arr [.str "yr", .str "qr", .str "mn", .str "dy"])])),
  ("AGGREGATION_FILTER", .joined [
    "\x7b\x7b\"Aggregation\": \x7b\x7b\"Expression\": \x7b\x7b\"Column\": \x7b\x7b\"Expression\":",
    " \x7b\x7b\"SourceRef\": \x7b\x7b\"Entity\": \"\x7btable_name\x7d\"\x7d\x7d\x7d\x7d,",
    "\"Property\": \"\x7bcolumn\x7d\"\x7d\x7d\x7d\x7d,\"Function\": \x7bselect_function\x7d\x7d",
    "\x7d\x7d\x7d"]),
  ("COLUMN_FILTER", .joined [
    "\x7b\x7b\"Column\": \x7b\x7b\"Expression\": \x7b\x7b\"SourceRef\": \x7b\x7b\"Entity\": ",
    "\"\x7btable_name\x7d\"\x7d\x7d\x7d\x7d,\"Property\": \"\x7bcolumn\x7d\"\x7d\x7d\x7d\x7d"]),
  ("DATE_HIERARCHY_FILTER", .joined [
    "\x7b\x7b\"HierarchyLevel\": \x7b\x7b\"Expression\": \x7b\x7b\"Hierarchy\": ",
    "\x7b\x7b\"Expression\": \x7b\x7b\"PropertyVariationSource\": \x7b\x7b\"Expression\": ",
    "\x7b\x7b\"SourceRef\": \x7b\x7b\"Entity\": \"\x7btable_name\x7d\"\x7d\x7d\x7d\x7d,\"Name\": ",
    "\"Variation\",\"Property\": \"\x7bcolumn\x7d\"\x7d\x7d\x7d\x7d,\"Hierarchy\": \"Date ",
    "Hierarchy\"\x7d\x7d\x7d\x7d,\"Level\": \"\x7bdate_level\x7d\"\x7d\x7d\x7d\x7d"]),
  ("COLUMN_FILTER_LIST", .joined [
    "\x7b\x7b\"Column\":\x7b\x7b\"Expression\":\x7b\x7b\"SourceRef\":\x7b\x7b\"Source\":",
    "\"\x7btable_name\x7d\"\x7d\x7d\x7d\x7d,\"Property\": \"\x7bcolumn\x7d\"\x7d\x7d\x7d\x7d"]),
  ("AGGREGATION_FILTER_SOURCE", .joined [
    "\x7b\x7b\"Aggregation\": \x7b\x7b\"Expression\": \x7b\x7b\"Column\": \x7b\x7b\"Expression\":",
    " \x7b\x7b\"SourceRef\": \x7b\x7b\"Source\": \"\x7btable_name\x7d\"\x7d\x7d\x7d\x7d,",
    "\"Property\": \"\x7bcolumn\x7d\"\x7d\x7d\x7d\x7d,\"Function\": \x7bselect_function\x7d\x7d",
    "\x7d\x7d\x7d"]),
  ("DATE_HIERARCHY_FILTER_SOURCE", .joined [
    "\x7b\x7b\"HierarchyLevel\": \x7b\x7b\"Expression\": \x7b\x7b\"Hierarchy\": ",
    "\x7b\x7b\"Expression\": \x7b\x7b\"PropertyVariationSource\": \x7b\x7b\"Expression\": ",
    "\x7b\x7b\"SourceRef\": \x7b\x7b\"Source\": \"\x7btable_name\x7d\"\x7d\x7d\x7d\x7d,\"Name\": ",
    "\"Variation\",\"Property\": \"\x7bcolumn\x7d\"\x7d\x7d\x7d\x7d,\"Hierarchy\": \"Date ",
    "Hierarchy\"\x7d\x7d\x7d\x7d,\"Level\": \"\x7bdate_level\x7d\"\x7d\x7d\x7d\x7d"]),
  ("MONTH_NUMBER_TO_NAME",
    .value (.obj [("1", .str "January"), ("2", .str "February"), ("3", .str "March"), ("4",
      .str "April"), ("5", .str "May"), ("6", .str "June"), ("7", .str "July"), ("8",
      .str "August"), ("9", .str "September"), ("10", .str "October"), ("11", .str "November"),
      ("12", .str "December")])),
  ("CACHED_DISPLAY_NAME", .joined [
    "\x7b\x7b\"id\": \x7b\x7b\"scopeId\": \x7b\x7b\"Comparison\": \x7b\x7b\"ComparisonKind\": 0, ",
    "\"Left\": \x7b\x7b\"Column\": \x7b\x7b\"Expression\": \x7b\x7b\"SourceRef\": ",
    "\x7b\x7b\"Entity\": \"\x7btable_name\x7d\"\x7d\x7d\x7d\x7d,\"Property\": \"\x7bcolumn\x7d",
    "\"\x7d\x7d\x7d\x7d,\"Right\": \x7b\x7b\"Literal\": \x7b\x7b\"Value\": \"\x7bvalue\x7d\"\x7d",
    "\x7d\x7d\x7d\x7d\x7d\x7d\x7d\x7d\x7d,\"displayName\": \"\x7bdisplay_name\x7d\"\x7d\x7d"]),
  ("COLUMN_FILTER_SUBQUERY", .joined [
    "\x7b\x7b\"Column\": \x7b\x7b\"Expression\": \x7b\x7b\"SourceRef\": \x7b\x7b\"Source\": ",
    "\"\x7btable_name\x7d\"\x7d\x7d\x7d\x7d,\"Property\": \"\x7bcolumn\x7d\"\x7d\x7d, \"Name\": ",
    "\"field\"\x7d\x7d"])]

end ReportMigration.Wording

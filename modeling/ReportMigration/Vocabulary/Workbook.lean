import ReportMigration.Vocabulary.Basic
/-!
The fixed sets for reading workbooks: elements, paths, attributes and the patterns of references in
them.
-/
namespace ReportMigration.Vocabulary

/-- Paths in a dashboard. -/
def dashboard : Vocabulary where
  name := "Dashboard"
  entries := ofTexts [
    ("DASHBOARD", ".//dashboard"), ("NAME", "name"),
    ("DS_DEPENDENCIES", ".//datasource-dependencies"), ("ZONE", ".//zone"), ("COLUMN", ".//column"),
    ("STYLE_FORMAT", ".//style-rule/format"), ("ZONE_STYLE", ".//zone-style"), ("VIEW", ".//view"),
    ("ENCODINGS", ".//encodings/*")]

/-- Paths and attributes of data sources. -/
def datasource : Vocabulary where
  name := "Datasource"
  entries := ofTexts [
    ("DSS", "datasources"), ("Datasources", "Datasources"), ("DS", ".//datasource"),
    ("DATASOURCES", ".//datasources"), ("COLUMN", "column"), ("CALC", "calculation"),
    ("CALC_IN_DS", "Calculations"), ("FORMULA", "formula"), ("DATATYPE", "datatype"),
    ("NAME", "name"), ("CAPTION", "caption"), ("FILTERS", "Filters"),
    ("NAMED_CONNECTIONS", "./connection/named-connections"), ("RELATION", ".//relation"),
    ("COLS_MAP", ".//cols/map"), ("CONNECTION", "./connection"),
    ("CONNECTION_RELATION", "./connection/relation"), ("META_RECORD", ".//metadata-record"),
    ("RELATIONSHIP", ".//relationship"), ("FIRST_END_POINT", "./first-end-point"),
    ("SECOND_ENC_POINT", "./second-end-point"), ("EXPRESSION", "./expression"),
    ("FILTER", ".//filter"), ("COLUMNS_COLUMN", "columns/column"), ("EXTRACT", ".//extract"),
    ("METADATA_RECORD_CLASS", ".//metadata-record[@class='column']"),
    ("REMOTE_NAME", "remote-name"), ("LOCAL_TYPE", "local-type"), ("PARENT_NAME", "parent-name"),
    ("AGGREGATION", "aggregation"), ("OBJECT_ID", "object-id"), ("OBJECT_TAG", ".//object"),
    ("ID", "id"), ("CONNECTION_CLASS", "class"), ("CONNECTION_DIRECTORY", "directory"),
    ("TABLE_NAME", "table_name"), ("ROLE", "role"), ("LOCAL_NAME", "local-name")]

/-- Names that are used throughout a workbook. -/
def generalKeys : Vocabulary where
  name := "GeneralKeys"
  entries := ofTexts [
    ("NAME", "name"), ("PATH", "path"), ("COLUMN", "column"), ("TYPE", "type"), ("ROLE", "role"),
    ("DATATYPE", "datatype"), ("CLASS", "class"), ("SIZE", "size"), ("Datasources", "datasources"),
    ("Datasource", "datasource"), ("DS_DEPENDENTIES", "datasource-dependencies"),
    ("ZONES", "zones"), ("CALC", "calculation"), ("FORMULA", "formula"), ("CAPTION", "caption"),
    ("WorkSheets", "Worksheets"), ("CONNECTION", "connection"),
    ("NAMED_CONNECTION", "named-connection"), ("FILE_NAME", "filename"),
    ("LOCAL_NAME", "local-name"), ("LOCAL_TYPE", "local-type"), ("GROUP_FILTER", "groupfilter"),
    ("PARAMETERS", "Parameters"), ("VALUE", "value"), ("KEY", "key"), ("OBJECT_ID", "object-id"),
    ("EXPRESSION", "expression"), ("NULL", "NULL"), ("OP", "op"), ("TABLE", "table"),
    ("DB_NAME", "dbname"), ("COLUMN_INSTANCES", "column-instances"),
    ("COLUMN_INSTANCE", "column-instance"), ("FILTERS", "filters"), ("SLICES", "slices"),
    ("ATTR", "attr"), ("MARK", "mark"), ("ENCODINGS", "encodings"), ("STYLES", "styles"),
    ("STYLE", "style"), ("ROWS", "rows"), ("COLS", "cols"), ("PANES", "panes"), ("PARAM", "param"),
    ("TYPE2", "type-v2"), ("VIEW", "view"), ("COLUMNS", "columns"), ("LAYOUT", "layout"),
    ("UNTITLED", "Untitled Dashboard"), ("DATASOURCE_COUNT", "datasource_count"),
    ("STATUS", "status"), ("TWB_FILE", ".twb"), ("CHART_TYPE", "chart_type"),
    ("CHART_TYPES", "chart_types"), ("ERROR", "error")] ++
    [("DATE_TIME_SET", .choice ["date", "datetime"])] ++
    ofTexts [
    ("QUANTITATIVE", "quantitative"), ("TWB_FILE_EXTENSION", ".twb"),
    ("NO_COLUMNS_AVAILABLE", "No columns available"), ("UNKNOWN", "unknown"),
    ("COLUMN_NAME_KEY", "column_name"), ("MAPPING_VALUE_KEY", "mapping_value"),
    ("TABLE_COLUMN_SEPARATOR", "].[")] ++
    [("TABLE_COLUMN_PATTERN", .pattern "\\[(.*?)\\]\\.\\[([^\\]]*)\\]")] ++
    ofTexts [
    ("UNNAMED_TABLE", "Unnamed Table"), ("UNNAMED_COLUMN", "Unnamed Column"),
    ("FONT_NAME", "Arial")] ++
    [("DEFAULT_FONT_SIZE_PT", .value (.int 11))] ++
    ofTexts [
    ("DOC_TITLE", "Summary")] ++
    [("TABLE_HEADERS_VISUALS",
      .value (.arr [.str "Report Name", .str "Visual Name", .str "Visual Type"]))] ++
    ofTexts [
    ("MIGRATION_AUTOMATIC", "Biport"), ("MIGRATION_MANUAL", "Manual"), ("DASHBOARDS", "Dashboards"),
    ("UNTITLED_DASHBOARDS", "untitled dashboards"), ("Dashboards", "Dashboards"),
    ("Columns_and_Datatypes", "Columns and Data Types"), ("DEFAULT_Schema", "Default Schema"),
    ("CONNECTION_DETAILS", "connection_details"), ("UNKNOWN_TYPE", "Unknown Type"),
    ("CALCULATIONS", "Calculations"), ("DASHBOARD_JSON", "dashboard.json"),
    ("SUPPORTED_FILE_EXTENSION", ".twb"), ("TOOLTIP", "tooltip"), ("QK", "qk"), ("NK", "nk"),
    ("REFLINE", "refline"), ("QUANTATIVE", "quantitative"), ("ORDINAL", "ordinal"),
    ("DEFAULT_DASHBOARD_NAME", "UNTITLED"), ("UNNMAED_COLUMN", "Unnamed column"),
    ("CONNECTION_TYPE", "connection_type"), ("HYPER", "hyper"), ("EXTRACT", "Extract"),
    ("LIVE", "Live"), ("EXTRACT_CLASS", "extract_class"),
    ("UNKNOWN_DATASOURCE", "unknown datasource"), ("HYPER_FILE", "Hyper file"), ("EXCEL", "Excel"),
    ("CSV_OR_TEXT_FILE", "CSV or Text File"), ("CALCULATION_", "Calculation_")] ++
    [("NOT_INCLUDING_WHILE_FETCHING_DIMENTIONS", .value (.arr [.str "mode", .str "param"]))] ++
    ofTexts [
    ("Z_DEFAULT_ZERO", "0.00"), ("LAYOUTS", "layouts"), ("ID", "id"), ("POSITION", "position"),
    ("X", "x"), ("Y", "y"), ("Z", "z"), ("H", "h"), ("W", "w"), ("MEASURE", "measure"),
    ("TEXT_BOX_VISUAL", "text_box_visual"), ("TEXT", "text")]

/-- Derivations of fields. -/
def filterValues : Vocabulary where
  name := "FilterValues"
  entries := ofTexts [
    ("YR", "yr"), ("QR", "qr"), ("MN", "mn"), ("WK", "wk"), ("DY", "dy"), ("TYR", "tyr"),
    ("TQR", "tqr"), ("TMN", "tmn"), ("TWK", "twk"), ("TDY", "tdy"), ("YEAR", "Year"),
    ("MONTH", "Month"), ("QUARTER", "Quarter"), ("COUNT", "Count"), ("AVERAGE", "Average"),
    ("DAY", "Day"), ("SUM", "sum"), ("CNT", "cnt"), ("USR", "usr"), ("AVG", "avg"), ("MAX", "max"),
    ("MIN", "min"), ("MED", "med"), ("STD", "std"), ("VAR", "var"), ("PRC", "prc"), ("CTD", "ctd"),
    ("ATTR", "attr"), ("WD", "wd")]

/-- Paths in a worksheet. -/
def worksheet : Vocabulary where
  name := "WorkSheet"
  entries := ofTexts [
    ("PANES_PANE", ".//panes/pane"), ("PANE", ".//pane"), ("PANES", ".//panes"),
    ("ENCODINGS", ".//encodings"), ("ENCODING_COLOR", ".//encodings/color"),
    ("ENCODING_TEXT", ".//encodings//text"), ("PANES_PATH_ATT", ".//encodings/path"),
    ("ALL_ENCODINGS", ".//panes/pane//encodings/*"), ("ENCODINGS_IN_ALL", ".//encodings/*"),
    ("ROWS", ".//rows"), ("COLS", ".//cols"),
    ("DS_COL_INSTANCES", ".//datasource-dependencies/column-instance"),
    ("DS_COLS", ".//datasource-dependencies/column"), ("NAME", "name"), ("COLUMN", "column"),
    ("TYPE", "type"), ("ROLE", "role"), ("DATATYPE", "datatype"),
    ("COLUMN_INSTANCE", ".//column-instance"), ("MARK", ".//mark"), ("CLASS", "class"),
    ("MAP_SOURCES", ".//mapsources"), ("LONGITUDE", "Longitude"), ("LATITUDE", "Latitude"),
    ("SIZE", "size"), ("AUTOMATIC", "Automatic"), ("WORKSHEETS", ".//worksheet"),
    ("COLS_MAP", ".//cols/map"), ("FILTER", ".//filter"), ("SLICES_COLUMN", ".//slices/column"),
    ("STYLE_RULE_FORMAT", ".//style-rule/format"), ("STYLE_RULE", ".//style-rule"),
    ("REFERENCE_LINE", ".//reference-line")]

/-- Elements and attributes of a workbook. -/
def elements : Vocabulary where
  name := "TableauXMLTags"
  entries := ofTexts [
    ("LOD", "lod"), ("AXIS", "axis"), ("NAME", "name"), ("TEXT", "text"), ("VIEW", "view"),
    ("ATTR", "attr"), ("FIELD", "field"), ("SCOPE", "scope"), ("CLASS", "class"),
    ("TITLE", "title"), ("TABLE", "table"), ("VALUE", "value"), ("COLOR", "color"),
    ("FORMAT", "format"), ("COLUMN", "column"), ("ELEMENT", "element"), ("TOOLTIP", "tooltip"),
    ("ENCODING", "encoding"), ("STYLE_RULE", "style-rule"), ("LOCAL_TYPE", "local-type"),
    ("LOCAL_NAME", "local-name"), ("PANES", ".//panes"), ("PARENT_NAME", "parent-name"),
    ("REMOTE_NAME", "remote-name"), ("CALCULATION", "calculation"), ("AGGREGATION", "aggregation"),
    ("COMPUTED_SORT", "computed-sort"), ("COLUMN_INSTANCE", ".//column-instance"),
    ("LAYOUT_OPTIONS", "layout-options"), ("FORMATTED_TEXT", "formatted-text"), ("SIZE", "size"),
    ("USING", "@using"), ("DIRECTION", "@direction"), ("ROWS", ".//rows"), ("COLS", ".//cols"),
    ("PANE", ".//pane"), ("MARK", ".//mark"), ("STYLE", ".//style"), ("ZONES", ".//zones"),
    ("ZONE", ".//zone"), ("RUN_TAG", ".//run"), ("FILTER", ".//filter"),
    ("GROUP_FILTER", ".//groupfilter"), ("WORKSHEET", ".//worksheet"),
    ("ENCODINGS", ".//encodings"), ("DASHBOARD", ".//dashboard"), ("DATASOURCE", ".//datasource"),
    ("DATASOURCE_DEPENDENCIES", ".//datasource-dependencies"),
    ("TITLE_RUN", ".//layout-options/title/formatted-text/run"),
    ("METADATA_RECORDS", ".//metadata-record[@class='column']"), ("WINDOWS", ".//window"),
    ("WORKSHEETS_DIMENSIONS_WITH_NAMES", "worksheets_with_zones"), ("TAB_ORDER", "tabOrder"),
    ("CELL", "cell"), ("NORMAL", "normal"), ("NONE", "none"), ("ACTIONS", ".//action"),
    ("FONT_STYLE", "font-style"), ("FONT_WEIGHT", "font-weight"), ("FONT_SIZE", "font-size"),
    ("FONT_FAMILY", "font-family"), ("FONT_COLOR", "font-color"), ("UNDERLINE", "underline"),
    ("BOLD", "bold"), ("ITALIC", "italic"), ("IS_ITALIC", "is_italic"),
    ("TEXT_DECORATION", "text-decoration"), ("LABEL", "label"), ("RUN", "run"),
    ("LAYOUT_FORMATTED_TEXT", ".//layout-options/title/formatted-text"),
    ("FORMATTED_TEXT_RUN", "formatted-text/run"), ("FORMAT_TAG", ".//format"),
    ("STYLE_RULES", ".//table/style/style-rule"),
    ("TEXT_BOX_TEXT", ".//table/view/datasource-dependencies/column/calculation"),
    ("MARK_TEXT", "mark"), ("PALETTE", "palette"), ("COLOR_PALETTE", "color-palette"),
    ("BORDER_COLOR", "border-color"), ("BORDER_WIDTH", "border-width"),
    ("BG_COLOR", "background-color"), ("PARAMS", ".//param"), ("TARGET", "target"),
    ("FORMATTED_TEXT_RUN_TAG", ".//formatted-text/run"), ("CALCULATION_", "Calculation_"),
    ("CAPTION", "caption"), ("FONT_NAME", "fontname"), ("FONTCOLOR", "fontcolor"),
    ("FONT_ALIGNMENT", "fontalignment"), ("BACKGROUND", "background"),
    ("IS_UNDERLINED", "is_underlined"), ("BACKGROUND_COLOR", "background-color"),
    ("FONTSIZE", "fontsize"), ("BORDER_STYLE", "border-style"), ("MAX_HEIGHT", "maxheight"),
    ("MAX_WIDTH", "maxwidth"), ("MEASURE_NAMES", ":Measure Names"),
    ("MULTIPLE_VALUES", "Multiple Values"), ("GROUPFILTER", "groupfilter"), ("LEVEL", "level"),
    ("MEMBER", "member"), ("FUNCTION", "function"),
    ("TABLEAU_OBJECT_ID", "__tableau_internal_object_id__"),
    ("COLUMN_INSTANCES", "column-instances"), ("TYPE_V2", "type-v2"),
    ("ZONE_STYLE_FORMAT", "zone-style/format"), ("ID", "id"), ("TEXT_FORMAT", "text-format"),
    ("PARAM", "param"), ("URL", "url"), ("MIN", "min"), ("MAX", "max"),
    ("INCLUDED_VALUES", "included-values"), ("END", "end"), ("UI_TOP_BY_FIELD", "ui-top-by-field"),
    ("UI_PATTERN_TYPE", "ui-pattern_type"), ("UI_PATTERN_TEXT", "ui-pattern_text"),
    ("CONTAINS", "contains"), ("STARTS_WITH", "starts-with"), ("EXACT_MATCH", "exact-match"),
    ("UNION", "union"), ("FIRST_PERIOD", "first-period"), ("LAST_PERIOD", "last-period"),
    ("PERIOD_TYPE_V2", "period-type-v2"), ("PERIOD_ANCHOR", "period-anchor"),
    ("RELATIVE_DATE", "relative-date"), ("UI_ENUMERATION", "ui-enumeration"),
    ("INCLUDE_FUTURE", "include-future"), ("INCLUDE_NULL", "include-null"),
    ("COLUMNS_TAG", ".//column"), ("CARDS_TAG", ".//card"), ("ZONE_IN_ZONES", "./zones/zone"),
    ("DATASOURCE_NAME", "datasource"), ("SHARED_VIEWS", ".//shared-views"),
    ("PARAM_DOMAIN_TYPE", "param-domain-type")]

/-- Separators and patterns of references to columns. -/
def references : Vocabulary where
  name := "Regex"
  entries := ofTexts [
    ("STRIP_SQUARE_BRACKETS", "[]$"), ("SQUARE_BRACKETS", "[]"), ("DOT", "."), ("COLON", ":"),
    ("TAB_REPLACE", "#tab"), ("UNDER_SCORE", "_"), ("EMPTY", ""), ("COMMA", ","), ("HYPHEN", "-"),
    ("SEMI_COLON", ";"), ("BETWEEN_SQUARE_BRACKETS", "\\[.*?\\]"),
    ("BETWEEN_SQUARE_BRACKETS_FOLLOWED_BY_DOT", "\\[.*?\\]\\."),
    ("COLUMNS_IN_WS", "\\[(?!federated\\.)[^\\]]+\\]"), ("LIST_IN_LIST_FOLLOWED", "\\[[^\\]]+\\]"),
    ("STARTS_WITH_COLON_IN_LIST", "^\\[[^:]+:[^:]+:[^\\]]+\\]$")]

end ReportMigration.Vocabulary

import ReportMigration.Vocabulary.Basic
/-!
The fixed sets for visuals: kinds of charts, filters, and the keys of reports that are written.
-/
namespace ReportMigration.Vocabulary

/-- Kinds of charts in workbooks. -/
def chartType : Vocabulary where
  name := "ChartType"
  entries := ofTexts [
    ("SYMBOL_MAP", "SymbolMap"), ("FILLED_MAP", "filledMap"), ("LINE", "Line"), ("AREA", "Area"),
    ("PIE", "Pie"), ("HIGHLIGHTED_TABLE", "Square"), ("PIVOT_TABLE", "PivotTable"), ("BAR", "Bar"),
    ("HORIZONTAL_BAR", "HorizontalBar"), ("VERTICAL_BAR", "VerticalBar"),
    ("STACKED_VERTICAL_BAR", "StackedVerticalBar"),
    ("STACKED_HORIZONTAL_BAR", "StackedHorizontalBar"), ("TEXT_TABLE", "TextTable"),
    ("TREE_MAP", "TreeMap"), ("SLICER", "Slicer"), ("TEXT_BOX", "TextBox"),
    ("BAR_AND_AREA", "Bar & Area"), ("BAR_AND_LINE", "Bar & Line"), ("SCATTER", "ScatterPlot"),
    ("MIXED_CHART", "MixedChart"), ("AUTOMATIC", "Automatic"), ("MULTIPOLYGON", "Multipolygon"),
    ("DEFAULT_DASHBOARD_NAME", "UNTITLED"), ("DONUT_CHART", "Donut"),
    ("BUBBLE_CHART", "Bubble_chart"), ("CIRCLE", "Circle"), ("WATER_FALL", "WaterFallChart"),
    ("GANTT_BAR", "Gantt_bar"), ("SQUARE", "Square"), ("AREA_AND_LINE", "Area & Line"),
    ("LINE_AND_AREA", "Line & Area"), ("BULLET_CHART", "Bullet_Chart"),
    ("POLYGON_WITH_TABLE", "Polygon_with_table"), ("POLYGON", "Polygon"),
    ("SINGLE_CARD", "Single_Card"), ("MULTIPLE_CARDS", "Multiple_Cards"), ("TEXT", "Text"),
    ("DONUT_WITH_CARD", "Donut_with_card"), ("SHAPE", "Shape")]

/-- Kinds of filters. -/
def filterTypes : Vocabulary where
  name := "FilterTypes"
  entries := ofTexts [
    ("CATEGORICAL", "Categorical"), ("ADVANCED", "Advanced"), ("RELATIVEDATE", "RelativeDate"),
    ("TOP_N", "Top N")]

/-- Comparisons in filters. -/
def comparison : Vocabulary where
  name := "ComparisonKind"
  entries := [
    ("EQUALS", .value (.int 0)),
    ("NOT_EQUALS", .value (.int 1)),
    ("GREATER_THAN_OR_EQUAL", .value (.int 2)),
    ("GREATER_THAN", .value (.int 3)),
    ("LESS_THAN_OR_EQUAL", .value (.int 4)),
    ("LESS_THAN", .value (.int 5)),
    ("CONTAINS", .value (.int 6)),
    ("DOES_NOT_CONTAIN", .value (.int 7)),
    ("STARTS_WITH", .value (.int 8)),
    ("DOES_NOT_START_WITH", .value (.int 9)),
    ("IS_BLANK", .value (.int 10)),
    ("IS_NOT_BLANK", .value (.int 11))]

/-- Keys of a report. -/
def reportKeys : Vocabulary where
  name := "PowerBIReportKeys"
  entries := ofTexts [
    ("NAME", "name"), ("LAYOUTS", "layouts"), ("SINGLE_VISUAL", "singleVisual"),
    ("ACTIVE", "active"), ("QUERYREF", "queryRef"), ("CONFIG", "config"),
    ("DISPLAY_NAME", "displayName"), ("COLUMN_PROPERTIES", "columnProperties"),
    ("DISLAY_OPTION", "displayOption"), ("ORDINAL", "ordinal"), ("X", "X"), ("Y", "Y"),
    ("Y2", "Y2"), ("ROWS", "Rows"), ("COLUMNS", "Columns"), ("SIZE", "Size"), ("VALUES", "Values"),
    ("GROUP", "Group"), ("DETAILS", "Details"), ("SERIES", "Series"), ("CATEGORY", "Category"),
    ("TOOLTIPS", "Tooltips"), ("VISUAL_TYPE", "visualType"), ("PROJECTIONS", "projections"),
    ("VERSION", "Version"), ("FROM", "From"), ("SELECT", "Select"),
    ("PROTOTYPE_QUERY", "prototypeQuery"), ("DRILL_FILTER_OTHER_VISUAL", "drillFilterOtherVisuals"),
    ("HAS_DEFAULT_SORT", "hasDefaultSort"), ("ENTITY", "Entity"), ("TYPE", "Type"),
    ("NAME_IN_FROM_LIST", "Name"), ("SUM", "Sum"), ("MAX", "Max"),
    ("VISUAL_CONTAINERS", "visualContainers"), ("FILTERS", "filters"), ("HEIGHT", "height"),
    ("WIDTH", "width"), ("EMPTY_DICTIONARY", "\x7b\x7d"), ("EMPTY_SQUARE", "[]")] ++
    [("DIMENSIONS",
      .value (.obj [("x", .str "x"), ("y", .str "y"), ("z", .str "z"), ("h", .str "height"), ("w", .str "width")]))] ++
    ofTexts [
    ("OBJECTS", "objects"), ("COLOR", "color"), ("FONT_FAMILY", "fontFamily"),
    ("VC_OBJECTS", "vcObjects"), ("PARAMETERS", "parameters"), ("X_DIMENSION", "x"),
    ("Y_DIMENSION", "y"), ("Z_DIMENSION", "z"), ("AVG", "Avg"), ("MEDIAN", "Median"),
    ("STANDARD_DEVIATION", "Standard deviation"), ("MIN", "Min"), ("VARIANCE", "Variance"),
    ("COUNTNONNULL", "CountNonNull"), ("COUNT", "Count"), ("W", "w"), ("H", "h"), ("STDDEV", "Std"),
    ("HOW_CREATED", "howCreated"), ("RESOURCE_PACKAGES", "resourcePackages"),
    ("SECTIONS", "sections"), ("PODS", "pods"), ("REPORT_FOLDER", ".Report"),
    ("STATIC_RESOURCES", "StaticResources"), ("REGISTERED_RESOURCES", "RegisteredResources"),
    ("EXPRESSION", "expression"), ("FILTER", "filter"), ("CONDITION", "Condition"), ("IN", "In"),
    ("TYPE_", "type"), ("WHERE", "Where"), ("EXPRESSIONS", "Expressions"),
    ("CACHED_DISPLAY_NAMES", "cachedDisplayNames")]

/-- Keys of the values that templates are filled with. -/
def templateKeys : Vocabulary where
  name := "PowerBITemplateKeys"
  entries := ofTexts [
    ("VISUAL_TYPE", "visual_type"), ("PROJECTIONS_DATA", "projections_data"),
    ("TABLES_LIST", "tables_list"), ("TABLE_NAME", "table_name"), ("COLUMN", "column"),
    ("FILTER", "filter"), ("WORKSHEET_NAME", "worksheet_name"), ("DIMENSIONS", "dimensions"),
    ("TABLE_COLUMNS", "table_columns"), ("COLUMN_VALUE", "column_value"),
    ("UNIQUE_ID", "unique_id"), ("COLUMN_DATA", "column_data"), ("DATA_TYPE", "data_type"),
    ("AGGREGATION", "aggregation"), ("COLUMN_NAME", "column_name"),
    ("COLUMN_CAPTION", "column_caption"), ("FORMAT_STRING", "format_string"),
    ("SUMMARIZE_BY", "summarize_by"), ("SOURCE_COLUMN", "source_column"),
    ("LINEAGE_TAG", "lineage_tag"), ("TEXT_BOX", "textBox"), ("OBJECTS", "objects"),
    ("VARIATION", "variation"), ("LOCAL_DATE_TABLE_REF", "local_date_table_ref"),
    ("RELATIONSHIP_ID", "relationship_id"), ("FORMULA", "formula"),
    ("CONNECTION_TYPE", "connection_type"), ("DIRECTORY", "directory"), ("SERVER", "server"),
    ("DATABASE", "database"), ("TOOLTIP", "tooltip"), ("IS_TOOLTIP_SOURCE", "is_tooltip_source"),
    ("SLICER", "Slicer"), ("ZONES", "zones"), ("ZONE", "zone"), ("SCHEMA", "schema"),
    ("WAREHOUSE", "warehouse"), ("NAME", "name"), ("v_http_path", "v_http_path"),
    ("VCOBJECTS", "vcObjects"), ("COLUMN_TYPE", "column_type"), ("CALCULATIONS", "Calculations"),
    ("PARAMETERS", "Parameters"), ("MEASURE", "measure"), ("TYPE", "type"),
    ("TEXT_DETAILS", "text_details"), ("ZONE_STYLES", "zone_styles"), ("DIMENSION", "dimension"),
    ("SLICER_TYPE", "slicer_type"), ("COLUMN_DATATYPE", "column_datatype"),
    ("GROUP_NAME", "group_name"), ("GROUP_TYPE", "group_type"), ("GROUP", "group"),
    ("BASE_COLUMN", "base_column"), ("DATA_FORMAT", "data_format"), ("IMAGE_NAME", "image_name"),
    ("CLASS", "class"), ("GROUPFILTER", "groupfilter"), ("VALUES_LIST", "values_list"),
    ("COLUMN_GROUPFILTER_MAPPING", "column_groupfilter_mapping"),
    ("INCLUDED_VALUES", "included-values"), ("ATTRIBUTES", "attributes"),
    ("SUBQUERY_EXPRESSIONS", "subquery_expressions"), ("FILE_PATH", "file_path"),
    ("CUSTOM_SQL_QUERY", "custom_sql_query"), ("CUSTOM_SQL_TYPE", "custom_sql_type"),
    ("DATASOURCE_NAME", "datasource"), ("DATATYPE", "datatype"),
    ("PARAMETER_TYPE", "parameter_type"), ("STRING", "string"), ("INTEGER", "integer"),
    ("BASIC", "Basic"), ("DATE", "date"), ("DATE_COLUMN", "Date"), ("DATE_TIME", "datetime"),
    ("BOOLEAN", "boolean"), ("DISPLAY_AS", "Display As"), ("REAL", "real"), ("ANY", "any"),
    ("MEASURE_ADJUSTMENT", "meausre_adjustment"), ("NTH_ITERATION", "nth_iteration"),
    ("INITIAL_DIMENSION", "initial_dimension")]

/-- Kinds of visuals in reports. -/
def visualType : Vocabulary where
  name := "PowerBIChartTypes"
  entries := ofTexts [
    ("LINE_CHART", "lineChart"), ("AREA", "areaChart"),
    ("CLUSTERED_COLUMN", "clusteredColumnChart"), ("CLUSTERED_BAR", "clusteredBarChart"),
    ("PIVOT_TABLE", "pivotTable"),
    ("LINE_STACKED_COLUMN_COMBO_CHART", "lineStackedColumnComboChart"), ("FILLED_MAP", "filledMap"),
    ("MAP", "map"), ("PIE", "pieChart"), ("DONUT", "donutChart"), ("SCATTER", "scatterChart"),
    ("COLUMN_CHART", "columnChart"), ("BAR_CHART", "barChart"), ("TABLE_EX", "tableEx"),
    ("TREE_MAP", "treemap"), ("CUSTOM", "custom"), ("TEXT_BOX", "textbox"), ("SLICER", "slicer"),
    ("CARD", "card"), ("CARDS", "cards"), ("MULTIROWCARD", "multiRowCard"), ("BITMAP", "bitmap"),
    ("TEXT_SLICER", "textSlicer")]

/-- Keys of the objects of a visual. -/
def objectKeys : Vocabulary where
  name := "PowerBIObjectKeys"
  entries := ofTexts [
    ("LINE_STYLES", "lineStyles"), ("LEGEND", "legend"), ("LABELS", "labels"),
    ("CATEGORY_AXIS", "categoryAxis"), ("VALUE_AXIS", "valueAxis"), ("Y2_AXIS", "y2Axis"),
    ("QUICK_FILTER", "quickFilter"), ("SHOW", "show"), ("DATA_POINT", "dataPoint"),
    ("SWITCH_AXIS_POSITION", "switchAxisPosition"), ("LABEL_PRECISION", "labelPrecision"),
    ("SHOW_AXIS_TITLE", "showAxisTitle"), ("TITLE_COLOR", "titleColor"),
    ("TITLE_FONT_SIZE", "titleFontSize"), ("TITLE_FONT_STYLE", "titleFontStyle"),
    ("TITLE_FONT_WEIGHT", "titleFontWeight"), ("TITLE_TEXT_DECORATION", "titleTextDecoration"),
    ("LABEL_COLOR", "labelColor"), ("TITLE_ITALIC", "titleItalic"), ("TITLE_BOLD", "titleBold"),
    ("TITLE_UNDERLINE", "titleUnderline"), ("UNDERLINE", "underline"), ("BOLD", "bold"),
    ("ITALIC", "italic"), ("TRUE", "true"), ("FALSE", "false"), ("COLOR", "color"),
    ("FONT_FAMILY", "fontFamily"), ("SHOW_MARKER", "showMarker"), ("SHOW_LEGEND", "showLegend"),
    ("AREA_SHOW", "areaShow"), ("AREA_MATCH_STROKE_COLOR", "areaMatchStrokeColor"),
    ("POSITION", "position"), ("VALUE", "value"), ("RIGHT", "right"), ("LEFT", "left"),
    ("CENTER", "center"), ("FONT_ALIGNMENT", "fontalignment"), ("PT", "pt"), ("ONE", "1"),
    ("TWO", "2"), ("EMPTY", ""), ("BG_COLOR", "background-color"), ("FONT_STYLE", "fontStyle"),
    ("FONTWEIGHT", "fontWeight"), ("FONTSIZE", "fontSize"), ("IS_BOLD", "is_bold"),
    ("TEXT_DECORATION", "textDecoration"), ("FONT_WEIGHT", "font-weight"), ("HEADER", "header"),
    ("LABEL", "label"), ("PURE_WHITE", "#ffffff"), ("PURE_BLACK", "#000000"),
    ("MARKERS", "markers"), ("TRANSPARENCY", "transparency"), ("ENTITY", "Entity"),
    ("PROPERTY", "Property"), ("FILTER_VALUE", "filterValue"), ("MIN", "min"), ("MID", "mid"),
    ("MAX", "max"), ("MAP_STYLES", "mapStyles"), ("MAP_THEME", "mapTheme"),
    ("SHOW_LABELS", "showLabels"), ("MAP_CONTROLS", "mapControls"), ("AUTO_ZOOM", "autoZoom"),
    ("SHOW_ZOOM_BUTTONS", "showZoomButtons"), ("SHOW_LASSO_BUTTON", "showLassoButton"),
    ("BORDER", "border"), ("BACKGROUND", "background"), ("TITLE", "title"), ("TEXT", "text"),
    ("FONTCOLOR", "fontColor"), ("BACKCOLOR", "backColor"), ("ALIGNMENT", "alignment"),
    ("BACKGROUNDCOLOR", "backgroundColor"), ("BORDERCOLOR", "borderColor"),
    ("TITLEWRAP", "titleWrap"), ("TEXT_STYLE", "textStyle"), ("TEXT_RUNS", "textRuns"),
    ("TEXT_ALIGNMENT", "horizontalTextAlignment"), ("PARAGRAPHS", "paragraphs"),
    ("GENERAL", "general"), ("CATEGORY_LABELS", "categoryLabels"), ("PROPERTIES", "properties"),
    ("BUTTON", "button"), ("ACTION", "action"), ("SIMPLE_ID", "simple-id"), ("UUID", "uuid"),
    ("MODE", "mode"), ("DATA", "data"), ("STYLE", "style"), ("OUTSPACE_COLOR", "outspace_color"),
    ("VALUES", "values"), ("COLUMN_TYPE", "columnType"), ("FILL", "fill"),
    ("COLUMN_DATATYPE", "columnDataType"), ("LABELSTYLE", "labelStyle"),
    ("FORMAT_STRING", "formatString"), ("ALIASIS", "Aliases")]

end ReportMigration.Vocabulary

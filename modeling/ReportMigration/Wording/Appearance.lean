import ReportMigration.Wording.Constant
/-!
Colours, sizes and styles of visuals.
-/
namespace ReportMigration.Wording

/-- Colours, sizes and styles of visuals. -/
def appearance : List (String × Constant) := [
  ("BASE_HEIGHT", .value (.real (.ofDecimal false 7200 1))),
  ("BASE_WIDTH", .value (.real (.ofDecimal false 12800 1))),
  ("DASHBOARD_TITLE_HEIGHT", .value (.real (.ofDecimal false 500 1))),
  ("DASHBOARD_TITLE_FONT_SIZE", .text "18pt"),
  ("VISUAL_TITLE_FONT_SIZE", .text "15D"),
  ("VISUAL_LABEL_FONT_SIZE", .text "14D"),
  ("AUTOMATIC_MIGRATED_CHARTS",
    .value (.arr [.str "SymbolMap", .str "Text", .str "filledMap", .str "Pie", .str "Bar",
      .str "HorizontalBar", .str "VerticalBar", .str "StackedVerticalBar",
      .str "StackedHorizontalBar", .str "TreeMap", .str "Cards", .str "TextBox",
      .str "Bar & Area", .str "Bar & Line", .str "ScatterPlot", .str "HighlightedTable",
      .str "PivotTable", .str "Slicer", .str "Card or TextTable", .str "Area", .str "Line",
      .str "Square", .str "TextTable", .str "Multiple_Cards", .str "Line & Area",
      .str "Single_Card", .str "Donut"])),
  ("DEFAULT_MIN_COLOR", .text "#BCE4D8"),
  ("DEFAULT_MID_COLOR", .text "#45a2b9"),
  ("DEFAULT_MAX_COLOR", .text "#2C5985"),
  ("COLOR_PALETTE_DATA",
    .value (.obj [
      ("blue_10_0", .obj [("Min", .str "#B9DDF1"), ("Mid", .str "#6798C1"), ("Max",
        .str "#2A5783")]),
      ("blue_teal_10_0", .obj [("Min", .str "#BCE4D8"), ("Mid", .str "#45A2B9"), ("Max",
        .str "#2C5985")]),
      ("brown_10_0", .obj [("Min", .str "#EEDBBD"), ("Mid", .str "#D18954"), ("Max",
        .str "#9F3632")]),
      ("gold_purple_diverging_10_0", .obj [("Min", .str "#AD9024"), ("Mid", .str "#E3D8CF"),
        ("Max", .str "#AC7299")]),
      ("gray_10_0", .obj [("Min", .str "#D5D5D5"), ("Mid", .str "#889296"), ("Max",
        .str "#49525E")]),
      ("gray_warm_10_0", .obj [("Min", .str "#DCD4D0"), ("Mid", .str "#98908C"), ("Max",
        .str "#59504E")]),
      ("green_10_0", .obj [("Min", .str "#B3E0A6"), ("Mid", .str "#5EA654"), ("Max",
        .str "#24693D")]),
      ("green_blue_diverging_10_0", .obj [("Min", .str "#24693D"), ("Mid", .str "#CADAD2"),
        ("Max", .str "#2A5783")]),
      ("green_blue_white_diverging_10_0", .obj [("Min", .str "#24693D"), ("Mid", .str "#FFFFFF"),
        ("Max", .str "#2A5783")]),
      ("green_gold_10_0", .obj [("Min", .str "#F4D166"), ("Mid", .str "#60A656"), ("Max",
        .str "#146C36")]),
      ("orange_10_0", .obj [("Min", .str "#FFC685"), ("Mid", .str "#ED6F20"), ("Max",
        .str "#9E3D22")]),
      ("orange_blue_diverging_10_0", .obj [("Min", .str "#9E3D22"), ("Mid", .str "#D9D5C9"),
        ("Max", .str "#2B5C88")]),
      ("orange_blue_white_diverging_10_0", .obj [("Min", .str "#9E3D22"), ("Mid", .str "#FFFFFF"),
        ("Max", .str "#2B5C8A")]),
      ("orange_gold_10_0", .obj [("Min", .str "#F4D166"), ("Mid", .str "#EF701B"), ("Max",
        .str "#9E3A26")]),
      ("purple_10_0", .obj [("Min", .str "#EEC9E5"), ("Mid", .str "#BC86A9"), ("Max",
        .str "#7C4D79")]),
      ("red_10_0", .obj [("Min", .str "#FFBEB2"), ("Mid", .str "#F26250"), ("Max",
        .str "#AE123A")]),
      ("red_black_10_0", .obj [("Min", .str "#AE123A"), ("Mid", .str "#D9D9D9"), ("Max",
        .str "#49525E")]),
      ("red_black_white_diverging_10_0", .obj [("Min", .str "#AE123A"), ("Mid", .str "#FFFFFF"),
        ("Max", .str "#49525E")]),
      ("red_blue_diverging_10_0", .obj [("Min", .str "#A90C38"), ("Mid", .str "#DFD4D1"), ("Max",
        .str "#2E5A87")]),
      ("red_blue_white_diverging_10_0", .obj [("Min", .str "#A90C38"), ("Mid", .str "#FFFFFF"),
        ("Max", .str "#2E5A87")]),
      ("red_gold_10_0", .obj [("Min", .str "#F4D166"), ("Mid", .str "#EE734A"), ("Max",
        .str "#B71D3E")]),
      ("red_green_diverging_10_0", .obj [("Min", .str "#AE123A"), ("Mid", .str "#CED7C3"), ("Max",
        .str "#24693D")]),
      ("red_green_gold_diverging_10_0", .obj [("Min", .str "#BE2A3E"), ("Mid", .str "#F4D166"),
        ("Max", .str "#22763F")]),
      ("red_green_white_diverging_10_0", .obj [("Min", .str "#AE123A"), ("Mid", .str "#FFFFFF"),
        ("Max", .str "#24693D")]),
      ("sunrise_sunset_diverging_10_0", .obj [("Min", .str "#33608C"), ("Mid", .str "#F6BA57"),
        ("Max", .str "#B81840")]),
      ("tableau-blue-light", .obj [("Min", .str "#E5E5E5"), ("Mid", .str "#D5DFEC"), ("Max",
        .str "#C4D8F3")]),
      ("tableau-map-blue-green", .obj [("Min", .str "#FEFFD9"), ("Mid", .str "#C4EAB1"), ("Max",
        .str "#41B7C4")]),
      ("tableau-map-temperatur", .obj [("Min", .str "#529985"), ("Mid", .str "#DBCF47"), ("Max",
        .str "#C26B51")]),
      ("tableau-orange-blue-light", .obj [("Min", .str "#FFCC96"), ("Mid", .str "#E5E5E5"),
        ("Max", .str "#C4D8F3")]),
      ("tableau-orange-light", .obj [("Min", .str "#E5E5E5"), ("Mid", .str "#F5D9C2"), ("Max",
        .str "#FFCC9E")])])),
  ("DATASOURCE_TYPES",
    .value (.obj [("excel-direct", .str "Excel"), ("hyper", .str "Hyper file"), ("snowflake",
      .str "Snowflake"), ("sqlproxy", .str "SQL Proxy"), ("sqlserver", .str "SQL Server"),
      ("textscan", .str "CSV or Text File")])),
  ("SLICER_MODES",
    .value (.obj [("checklist", .str "Basic"), ("checkdropdown", .str "Dropdown"), ("dropdown",
      .str "Dropdown"), ("radiolist", .str "Basic"), ("compact", .str "Dropdown"), ("slider",
      .str "Between")])),
  ("TABLEAU_WORKSHEET_DIMENSIONS",
    .value (.obj [("width", .real (.ofDecimal false 12800 1)), ("height",
      .real (.ofDecimal false 7200 1)), ("x", .real (.ofDecimal false 0 1)), ("y",
      .real (.ofDecimal false 0 1)), ("z", .real (.ofDecimal false 0 1))])),
  ("TABLEAU_TOOLTIP_DIMENSION",
    .value (.obj [("width", .real (.ofDecimal false 2750 1)), ("height",
      .real (.ofDecimal false 2000 1)), ("x", .real (.ofDecimal false 0 1)), ("y",
      .real (.ofDecimal false 0 1)), ("z", .real (.ofDecimal false 0 1))])),
  ("PAGE_WITH_PARAMETERS_AND_VISUAL_DIMENSIONS",
    .value (.obj [("width", .real (.ofDecimal false 9500 1)), ("height",
      .real (.ofDecimal false 7200 1)), ("x", .real (.ofDecimal false 0 1)), ("y",
      .real (.ofDecimal false 0 1)), ("z", .real (.ofDecimal false 0 1))])),
  ("UNCOVERED_TEXT_BOX",
    .text "This visual is not supported in this version. This will be added in future versions."),
  ("VISUAL_GENERATION_ERROR", .text "Error occured during genration of this file."),
  ("TOOLTIP_TYPE", .value (.obj [("type", .int 1)])),
  ("WORKSHEET_PARAMETERS_STATIC_DIMESIONS",
    .value (.obj [("x", .int 72000), ("y", .int 5000), ("w", .int 20000), ("h", .int 20000)])),
  ("STRING_PARAMETERS_STYLES",
    .value (.obj [("list", .str "Basic"), ("compact", .str "Dropdown"), ("slider", .str "Basic"),
      ("type_in", .str "Basic")])),
  ("NUMERIC_PARAMETER_STYLES",
    .value (.obj [("slider", .str "Single"), ("type_in", .str "Single")])),
  ("BOOLEAN_PARAMETER_STYLES",
    .value (.obj [("list", .str "Basic"), ("compact", .str "Dropdown"), ("slider",
      .str "Dropdown")]))]

end ReportMigration.Wording
